import AvbAes3.AecpFrames

/-!
# Descriptors as they are read

A descriptor is cleared and its fields are written in the order of their
offsets, none over another, so each is read back where it was written. The
lemmas say for each descriptor what a controller finds at the offsets of the
standard.
-/

namespace AvbAes3.Descriptors

def field16 (d : List UInt8) (off : Nat) : UInt16 := getBe16 ((Buffer.ofList d).offset off)

def bytesAt (d : List UInt8) (off n : Nat) : List UInt8 := ((Buffer.ofList d).offset off).take n

-- ---------------------------------------------------------------------------
-- Layouts
-- ---------------------------------------------------------------------------

/-- The fields follow each other from `start` on and end by `n`. -/
def Ascending (n : Nat) : Nat → List (Nat × List UInt8) → Prop
  | start, [] => start ≤ n
  | start, field :: rest =>
    start ≤ field.1 ∧ Ascending n (field.1 + field.2.length) rest

section Layout

variable {n start : Nat} {fields : List (Nat × List UInt8)}

theorem Ascending.start_le (h : Ascending n start fields) : start ≤ n := by
  induction fields generalizing start with
  | nil => exact h
  | cons field rest ih =>
    have hend := ih h.2
    have hfirst := h.1
    omega

/-- Writing leaves what is before the fields. -/
theorem Ascending.before (h : Ascending n start fields) (b : Buffer) {i : Nat} (hi : i < start) :
    fields.foldl (fun b field => b.copy field.1 field.2) b i = b i := by
  induction fields generalizing start b with
  | nil => rfl
  | cons field rest ih =>
    have hfirst := h.1
    rw [List.foldl_cons, ih h.2 _ (by omega), Buffer.copy_outside (.inl (by omega))]

theorem Ascending.holds (h : Ascending n start fields) (b : Buffer) {field : Nat × List UInt8}
    (hmem : field ∈ fields) :
    (fields.foldl (fun b field => b.copy field.1 field.2) b).Holds field.1 field.2 ∧
      field.1 + field.2.length ≤ n := by
  induction fields generalizing start b with
  | nil => cases hmem
  | cons first rest ih =>
    rw [List.foldl_cons]
    rcases List.mem_cons.mp hmem with rfl | hmem
    · refine ⟨fun i hi => ?_, h.2.start_le⟩
      rw [h.2.before _ (by omega)]
      exact Buffer.holds_copy_at b field.1 field.2 i hi
    · exact ih h.2 _ hmem

/-- A descriptor and the fields it was written with. -/
structure Laid (n : Nat) (fields : List (Nat × List UInt8)) (d : List UInt8) : Prop where
  eq : layout n fields = d
  ascending : Ascending n 0 fields

variable {d : List UInt8}

theorem Laid.length (h : Laid n fields d) : d.length = n := by
  rw [← h.eq, layout, Buffer.length_take]

/-- Each field is read back. -/
theorem Laid.holds (h : Laid n fields d) (k : Nat) {off : Nat} {bytes : List UInt8}
    (hk : fields[k]? = some (off, bytes)) : (Buffer.ofList d).Holds off bytes := by
  obtain ⟨hholds, hin⟩ := h.ascending.holds (fun _ => 0) (List.mem_of_getElem? hk)
  intro i hi
  have hlt : off + i < n := Nat.lt_of_lt_of_le (Nat.add_lt_add_left hi off) hin
  rw [← hholds i hi, ← h.eq, layout]
  simp [Buffer.ofList, Buffer.take, hlt]

theorem Laid.field16 (h : Laid n fields d) (k : Nat) {off : Nat} {v : UInt16}
    (hk : fields[k]? = some (off, be16 v)) : Descriptors.field16 d off = v :=
  (h.holds k hk).getBe16

theorem Laid.bytesAt (h : Laid n fields d) (k : Nat) {off : Nat} {bytes : List UInt8}
    (hk : fields[k]? = some (off, bytes)) : Descriptors.bytesAt d off bytes.length = bytes :=
  (h.holds k hk).take

end Layout

/-- A descriptor there is one of. -/
theorem first_iff {idx : UInt16} {d d' : List UInt8} :
    (if idx ≠ 0 then none else some d) = some d' ↔ idx = 0 ∧ d = d' := by
  split <;> simp_all

-- ---------------------------------------------------------------------------
-- The descriptors
-- ---------------------------------------------------------------------------

section Read

variable {s : Avdecc} {g : Gptp} {idx : UInt16} {d : List UInt8}

/-- The first fields of every descriptor. -/
structure Headed (dt idx : UInt16) (n : Nat) (d : List UInt8) : Prop where
  length : d.length = n
  descType : field16 d 0 = dt
  descIndex : field16 d 2 = idx

theorem Laid.headed {n : Nat} {fields : List (Nat × List UInt8)} {dt : UInt16}
    (h : Laid n fields d) (htype : fields[0]? = some (0, be16 dt))
    (hidx : fields[1]? = some (2, be16 idx)) : Headed dt idx n d :=
  ⟨h.length, h.field16 0 htype, h.field16 1 hidx⟩

theorem entity_read (h : buildDescEntity idx s = some d) :
    idx = 0 ∧ Headed aemDescEntity 0 312 d ∧ bytesAt d 48 64 = name64 "AVB-AES3 Endpoint" ∧
      field16 d 24 = nStreamOutputs ∧ field16 d 28 = nStreamInputs ∧
      field16 d 112 = 0 ∧ field16 d 114 = 1 ∧ field16 d 308 = 1 ∧ field16 d 310 = 0 := by
  obtain ⟨rfl, hlayout⟩ := first_iff.mp h
  have hlaid := Laid.mk hlayout (by simp [Ascending, serialNumber])
  have hname := hlaid.bytesAt 10 rfl
  rw [name64_length] at hname
  exact ⟨rfl, hlaid.headed rfl rfl, hname, hlaid.field16 5 rfl, hlaid.field16 7 rfl,
    hlaid.field16 11 rfl, hlaid.field16 12 rfl, hlaid.field16 15 rfl, hlaid.field16 16 rfl⟩

theorem configuration_read (h : buildDescConfiguration idx = some d) :
    idx = 0 ∧ Headed aemDescConfiguration 0 102 d ∧ bytesAt d 4 64 = name64 "Default" ∧
      field16 d 68 = 0xFFFF ∧ field16 d 70 = 7 ∧ field16 d 72 = 74 ∧
      field16 d 74 = aemDescAudioUnit ∧ field16 d 76 = 1 ∧
      field16 d 78 = aemDescStreamInput ∧ field16 d 80 = nStreamInputs ∧
      field16 d 82 = aemDescStreamOutput ∧ field16 d 84 = nStreamOutputs ∧
      field16 d 86 = aemDescAvbInterface ∧ field16 d 88 = 1 ∧
      field16 d 90 = aemDescClockSource ∧ field16 d 92 = nClockSources ∧
      field16 d 94 = aemDescLocale ∧ field16 d 96 = 1 ∧
      field16 d 98 = aemDescClockDomain ∧ field16 d 100 = 1 := by
  obtain ⟨rfl, hlayout⟩ := first_iff.mp h
  have hlaid := Laid.mk hlayout (by simp [Ascending])
  have hname := hlaid.bytesAt 2 rfl
  rw [name64_length] at hname
  exact ⟨rfl, hlaid.headed rfl rfl, hname, hlaid.field16 3 rfl, hlaid.field16 4 rfl,
    hlaid.field16 5 rfl, hlaid.field16 6 rfl, hlaid.field16 7 rfl, hlaid.field16 8 rfl,
    hlaid.field16 9 rfl, hlaid.field16 10 rfl, hlaid.field16 11 rfl, hlaid.field16 12 rfl,
    hlaid.field16 13 rfl, hlaid.field16 14 rfl, hlaid.field16 15 rfl, hlaid.field16 16 rfl,
    hlaid.field16 17 rfl, hlaid.field16 18 rfl, hlaid.field16 19 rfl⟩

theorem audioUnit_read (h : buildDescAudioUnit idx = some d) :
    idx = 0 ∧ Headed aemDescAudioUnit 0 148 d ∧ bytesAt d 4 64 = name64 "Audio Unit" ∧
      field16 d 68 = 0xFFFF ∧ field16 d 70 = 0 ∧ field16 d 72 = 1 ∧ field16 d 74 = 0 ∧
      field16 d 76 = 1 ∧ field16 d 78 = 0 ∧ field16 d 140 = 144 ∧ field16 d 142 = 1 ∧
      ∀ off ∈ [80, 84, 88, 92], field16 d off = 0 := by
  obtain ⟨rfl, hlayout⟩ := first_iff.mp h
  have hlaid := Laid.mk hlayout (by simp [Ascending])
  have hname := hlaid.bytesAt 2 rfl
  rw [name64_length] at hname
  refine ⟨rfl, hlaid.headed rfl rfl, hname, hlaid.field16 3 rfl, hlaid.field16 4 rfl,
    hlaid.field16 5 rfl, hlaid.field16 6 rfl, hlaid.field16 7 rfl, hlaid.field16 8 rfl,
    hlaid.field16 10 rfl, hlaid.field16 11 rfl, ?_⟩
  subst hlayout
  decide +kernel

/-- What every stream descriptor says besides its name and format. -/
structure Stream (descType idx : UInt16) (d : List UInt8) : Prop where
  headed : Headed descType idx 140 d
  description : field16 d 68 = 0xFFFF
  clockDomain : field16 d 70 = 0
  formatsOffset : field16 d 82 = 132
  formats : field16 d 84 = 1
  avbInterface : field16 d 104 = 0

theorem stream_read {descType flags : UInt16} {name : String} {fmt : Vector UInt8 8}
    (h : buildDescStream descType idx name flags fmt = d) :
    Stream descType idx d ∧ bytesAt d 4 64 = name64 name ∧ bytesAt d 74 8 = fmt.toList := by
  have hlaid := Laid.mk h (by simp [Ascending])
  have hname := hlaid.bytesAt 2 rfl
  have hformat := hlaid.bytesAt 6 rfl
  rw [name64_length] at hname
  rw [Vector.length_toList] at hformat
  refine ⟨?_, hname, hformat⟩
  exact ⟨hlaid.headed rfl rfl, hlaid.field16 3 rfl, hlaid.field16 4 rfl, hlaid.field16 7 rfl,
    hlaid.field16 8 rfl, hlaid.field16 9 rfl⟩

theorem streamInput_read (h : buildDescStreamInput idx = some d) :
    idx < nStreamInputs ∧ Stream aemDescStreamInput idx d ∧
      bytesAt d 4 64 = name64 (if idx = 0 then "Media Clock Input" else "Audio Input") ∧
      bytesAt d 74 8 = (if idx = 0 then streamFmtCrf48k else streamFmtAaf8ch48k).toList := by
  unfold buildDescStreamInput at h
  split at h
  · cases h
  · rename_i hlt
    refine ⟨UInt16.not_le.mp hlt, ?_⟩
    split at h <;> rename_i hfirst
    · rw [if_pos hfirst, if_pos hfirst]
      exact stream_read (Option.some.inj h)
    · rw [if_neg hfirst, if_neg hfirst]
      exact stream_read (Option.some.inj h)

theorem streamOutput_read (h : buildDescStreamOutput idx = some d) :
    idx < nStreamOutputs ∧ Stream aemDescStreamOutput idx d ∧
      bytesAt d 4 64 = name64 "Audio Output" ∧ bytesAt d 74 8 = streamFmtAaf8ch48k.toList := by
  unfold buildDescStreamOutput at h
  split at h
  · cases h
  · rename_i hlt
    exact ⟨UInt16.not_le.mp hlt, stream_read (Option.some.inj h)⟩

theorem gmDataset_length (g : Gptp) : (gmDataset g).length = 6 := by
  unfold gmDataset
  split <;> rfl

theorem avbInterface_read (h : buildDescAvbInterface idx s g = some d) :
    idx = 0 ∧ Headed aemDescAvbInterface 0 98 d ∧ bytesAt d 4 64 = name64 "Ethernet" ∧
      field16 d 68 = 0xFFFF := by
  obtain ⟨rfl, hlayout⟩ := first_iff.mp h
  have hlaid := Laid.mk hlayout (by simp [Ascending, gmDataset_length])
  have hname := hlaid.bytesAt 2 rfl
  rw [name64_length] at hname
  exact ⟨rfl, hlaid.headed rfl rfl, hname, hlaid.field16 3 rfl⟩

/-- Of the two clock sources, one is at the audio unit and one at a stream. -/
theorem clockSource_read (h : buildDescClockSource idx s = some d) :
    idx < nClockSources ∧ Headed aemDescClockSource idx 86 d ∧
      bytesAt d 4 64 = name64 (if idx = 0 then "Internal" else "Media Clock") ∧
      field16 d 68 = 0xFFFF ∧
      field16 d 82 = (if idx = 0 then aemDescAudioUnit else aemDescStreamInput) ∧
      field16 d 84 = 0 := by
  simp only [buildDescClockSource] at h
  split at h
  · cases h
  · rename_i hlt
    refine ⟨UInt16.not_le.mp hlt, ?_⟩
    split at h <;> rename_i hfirst
    all_goals
      have hlaid := Laid.mk (Option.some.inj h) (by simp [Ascending])
      have hname := hlaid.bytesAt 2 rfl
      have hlocation := hlaid.field16 7 rfl
      rw [name64_length] at hname
      refine ⟨hlaid.headed rfl rfl, ?_, hlaid.field16 3 rfl, ?_, hlaid.field16 8 rfl⟩
      · simpa only [hfirst, if_true, if_false] using hname
      · simpa only [hfirst, if_true, if_false] using hlocation

theorem clockDomain_read (h : buildDescClockDomain idx s = some d) :
    idx = 0 ∧ Headed aemDescClockDomain 0 80 d ∧ bytesAt d 4 64 = name64 "Clock Domain" ∧
      field16 d 68 = 0xFFFF ∧ field16 d 70 < nClockSources ∧ field16 d 72 = 76 ∧
      field16 d 74 = nClockSources ∧ field16 d 76 = 0 ∧ field16 d 78 = 1 := by
  obtain ⟨rfl, hlayout⟩ := first_iff.mp h
  have hlaid := Laid.mk hlayout (by simp [Ascending])
  have hname := hlaid.bytesAt 2 rfl
  rw [name64_length] at hname
  have hsource := hlaid.field16 4 rfl
  have hclamped : field16 d 70 < nClockSources := by
    rw [hsource]
    split
    · decide
    · exact UInt16.not_le.mp ‹_›
  exact ⟨rfl, hlaid.headed rfl rfl, hname, hlaid.field16 3 rfl, hclamped, hlaid.field16 5 rfl,
    hlaid.field16 6 rfl, hlaid.field16 7 rfl, hlaid.field16 8 rfl⟩

theorem locale_read (h : buildDescLocale idx = some d) :
    idx = 0 ∧ Headed aemDescLocale 0 72 d ∧ field16 d 68 = 1 ∧ field16 d 70 = 0 := by
  obtain ⟨rfl, hlayout⟩ := first_iff.mp h
  have hlaid := Laid.mk hlayout (by simp [Ascending])
  exact ⟨rfl, hlaid.headed rfl rfl, hlaid.field16 3 rfl, hlaid.field16 4 rfl⟩

theorem strings_read (h : buildDescStrings idx = some d) :
    idx = 0 ∧ Headed aemDescStrings 0 452 d := by
  obtain ⟨rfl, hbytes⟩ := first_iff.mp h
  cases hbytes
  refine ⟨rfl, ?_, rfl, rfl⟩
  simp [be16]

theorem streamPort_read {descType : UInt16} (h : buildDescStreamPort descType idx = some d) :
    idx = 0 ∧ Headed descType 0 20 d ∧ field16 d 4 = 0 := by
  obtain ⟨rfl, hlayout⟩ := first_iff.mp h
  have hlaid := Laid.mk hlayout (by simp [Ascending])
  exact ⟨rfl, hlaid.headed rfl rfl, hlaid.field16 2 rfl⟩

end Read

end AvbAes3.Descriptors
