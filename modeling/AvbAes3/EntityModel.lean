import AvbAes3.AecpResponses
import AvbAes3.Descriptors

/-!
# The entity model is closed

A controller reads the descriptors one by one: they count each other, refer
to each other by index and place tables behind their fields. Whatever the
state, what is counted and what is referred to is what can be read, and the
names and formats that are asked for alone are those of the descriptors.
-/

namespace AvbAes3.EntityModel

open Descriptors AecpResponses

/-- How many descriptors there are of each type. -/
def entityModel : List (UInt16 × UInt16) :=
  [(aemDescEntity, 1), (aemDescConfiguration, 1), (aemDescAudioUnit, 1), (aemDescStreamInput, 2),
    (aemDescStreamOutput, 1), (aemDescAvbInterface, 1), (aemDescClockSource, 2),
    (aemDescClockDomain, 1), (aemDescLocale, 1), (aemDescStrings, 1),
    (aemDescStreamPortInput, 1), (aemDescStreamPortOutput, 1)]

def InModel (dt di : UInt16) : Prop := ∃ n, (dt, n) ∈ entityModel ∧ di < n

def aemDescAudioCluster : UInt16 := 0x0014
def aemDescAudioMap : UInt16 := 0x0017

/-- The ports an AUDIO_UNIT may have besides those of streams. -/
def aemDescExternalPortInput : UInt16 := 0x0010
def aemDescExternalPortOutput : UInt16 := 0x0011
def aemDescInternalPortInput : UInt16 := 0x0012
def aemDescInternalPortOutput : UInt16 := 0x0013

/-- What CONFIGURATION is to count: neither itself nor the ENTITY, and no
child of another descriptor. -/
def TopLevel (dt : UInt16) : Prop :=
  dt ∉ [aemDescEntity, aemDescConfiguration, aemDescStreamPortInput, aemDescStreamPortOutput,
    aemDescAudioCluster, aemDescAudioMap, aemDescStrings]

instance : DecidablePred TopLevel := fun dt => inferInstanceAs (Decidable (dt ∉ _))

-- ---------------------------------------------------------------------------
-- What a descriptor says of others
-- ---------------------------------------------------------------------------

/-- The types a descriptor counts, with their counts. -/
def counts (dt : UInt16) (d : List UInt8) : List (UInt16 × UInt16) :=
  if dt = aemDescEntity then
    [(aemDescStreamOutput, field16 d 24), (aemDescStreamInput, field16 d 28),
      (aemDescConfiguration, field16 d 308)]
  else if dt = aemDescConfiguration then
    (List.range (field16 d 70).toNat).map fun k =>
      (field16 d ((field16 d 72).toNat + 4 * k), field16 d ((field16 d 72).toNat + 4 * k + 2))
  else if dt = aemDescAudioUnit then
    [(aemDescStreamPortInput, field16 d 72), (aemDescStreamPortOutput, field16 d 76),
      (aemDescExternalPortInput, field16 d 80), (aemDescExternalPortOutput, field16 d 84),
      (aemDescInternalPortInput, field16 d 88), (aemDescInternalPortOutput, field16 d 92)]
  else if dt = aemDescLocale then [(aemDescStrings, field16 d 68)]
  else []

/-- The descriptors a descriptor refers to. -/
def references (dt : UInt16) (d : List UInt8) : List (UInt16 × UInt16) :=
  if dt = aemDescEntity then [(aemDescConfiguration, field16 d 310)]
  else if dt = aemDescAudioUnit then
    [(aemDescClockDomain, field16 d 70), (aemDescStreamPortInput, field16 d 74),
      (aemDescStreamPortOutput, field16 d 78)]
  else if dt = aemDescStreamInput ∨ dt = aemDescStreamOutput then
    [(aemDescClockDomain, field16 d 70), (aemDescAvbInterface, field16 d 104)]
  else if dt = aemDescClockSource then [(field16 d 82, field16 d 84)]
  else if dt = aemDescClockDomain then
    (aemDescClockSource, field16 d 70) :: (List.range (field16 d 74).toNat).map fun k =>
      (aemDescClockSource, field16 d ((field16 d 72).toNat + 2 * k))
  else if dt = aemDescLocale then [(aemDescStrings, field16 d 70)]
  else if dt = aemDescStreamPortInput ∨ dt = aemDescStreamPortOutput then
    [(aemDescClockDomain, field16 d 4)]
  else []

/-- The localized strings a descriptor names; 0xFFFF is none. -/
def stringRefs (dt : UInt16) (d : List UInt8) : List UInt16 :=
  let refs :=
    if dt = aemDescEntity then [field16 d 112, field16 d 114]
    else if dt = aemDescLocale ∨ dt = aemDescStrings ∨ dt = aemDescStreamPortInput ∨
        dt = aemDescStreamPortOutput then []
    else [field16 d 68]
  refs.filter (· ≠ 0xFFFF)

/-- A table in a descriptor: `count` entries of `size` bytes. -/
structure Table where
  offset : UInt16
  count : UInt16
  size : Nat

def tables (dt : UInt16) (d : List UInt8) : List Table :=
  if dt = aemDescConfiguration then [⟨field16 d 72, field16 d 70, 4⟩]
  else if dt = aemDescAudioUnit then [⟨field16 d 140, field16 d 142, 4⟩]
  else if dt = aemDescStreamInput ∨ dt = aemDescStreamOutput then
    [⟨field16 d 82, field16 d 84, 8⟩]
  else if dt = aemDescClockDomain then [⟨field16 d 72, field16 d 74, 2⟩]
  else []

/-- Of the descriptors that can be read. A string is found by its STRINGS
descriptor, from the locale's first one on, and its slot there. -/
structure SelfConsistent (read : UInt16 → UInt16 → Option (List UInt8)) : Prop where
  known : ∀ dt di, (read dt di).isSome ↔ InModel dt di
  echoed : ∀ dt di d, read dt di = some d →
    4 ≤ d.length ∧ field16 d 0 = dt ∧ field16 d 2 = di
  counted : ∀ dt di d, read dt di = some d → ∀ p ∈ counts dt d,
    ∀ i, (read p.1 i).isSome ↔ i < p.2
  listed : ∀ di d, read aemDescConfiguration di = some d → ∀ dt,
    dt ∈ (counts aemDescConfiguration d).map Prod.fst ↔ TopLevel dt ∧ ∃ i, (read dt i).isSome
  resolved : ∀ dt di d, read dt di = some d → ∀ r ∈ references dt d, (read r.1 r.2).isSome
  strings : ∀ dt di d, read dt di = some d → ∀ r ∈ stringRefs dt d,
    ∃ l strs, read aemDescLocale 0 = some l ∧
      read aemDescStrings (field16 l 70 + r >>> 3) = some strs ∧
      4 + 64 * ((r &&& 7).toNat + 1) ≤ strs.length
  inside : ∀ dt di d, read dt di = some d → ∀ t ∈ tables dt d,
    t.offset.toNat + t.count.toNat * t.size ≤ d.length

-- ---------------------------------------------------------------------------
-- The descriptors
-- ---------------------------------------------------------------------------

section Model

variable {s : Avdecc} {g : Gptp} {dt di : UInt16} {d : List UInt8}

theorem lt_two_cases {i : UInt16} (h : i < 2) : i = 0 ∨ i = 1 := by
  have hlt : i.toNat < 2 := UInt16.lt_iff_toNat_lt.mp h
  rcases Nat.lt_succ_iff_lt_or_eq.mp hlt with hzero | hone
  · exact .inl (UInt16.toNat_inj.mp (Nat.lt_one_iff.mp hzero))
  · exact .inr (UInt16.toNat_inj.mp hone)

theorem lt_one_iff {i : UInt16} : i < 1 ↔ i = 0 := by
  rw [UInt16.lt_iff_toNat_lt, ← UInt16.toNat_inj]
  exact Nat.lt_one_iff

theorem built_inModel (h : Built s g dt di d) : InModel dt di := by
  have hfirst {dt : UInt16} (hmem : (dt, 1) ∈ entityModel) (hzero : di = 0) : InModel dt di :=
    ⟨1, hmem, lt_one_iff.mpr hzero⟩
  cases h with
  | entity h => exact hfirst (by simp [entityModel]) (entity_read h).1
  | configuration h => exact hfirst (by simp [entityModel]) (configuration_read h).1
  | audioUnit h => exact hfirst (by simp [entityModel]) (audioUnit_read h).1
  | streamInput h => exact ⟨2, by simp [entityModel], (streamInput_read h).1⟩
  | streamOutput h => exact ⟨1, by simp [entityModel], (streamOutput_read h).1⟩
  | avbInterface h => exact hfirst (by simp [entityModel]) (avbInterface_read h).1
  | clockSource h => exact ⟨2, by simp [entityModel], (clockSource_read h).1⟩
  | clockDomain h => exact hfirst (by simp [entityModel]) (clockDomain_read h).1
  | locale h => exact hfirst (by simp [entityModel]) (locale_read h).1
  | strings h => exact hfirst (by simp [entityModel]) (strings_read h).1
  | portInput h => exact hfirst (by simp [entityModel]) (streamPort_read h).1
  | portOutput h => exact hfirst (by simp [entityModel]) (streamPort_read h).1

theorem known_iff (s : Avdecc) (g : Gptp) (dt di : UInt16) :
    (buildDescriptor dt di s g).isSome ↔ InModel dt di := by
  constructor
  · intro hsome
    obtain ⟨d, hd⟩ := Option.isSome_iff_exists.mp hsome
    exact built_inModel (buildDescriptor_built hd)
  · rintro ⟨n, hmem, hlt⟩
    simp only [entityModel, List.mem_cons, Prod.mk.injEq, List.not_mem_nil, or_false] at hmem
    rcases hmem with ⟨rfl, rfl⟩ | ⟨rfl, rfl⟩ | ⟨rfl, rfl⟩ | ⟨rfl, rfl⟩ | ⟨rfl, rfl⟩ | ⟨rfl, rfl⟩ |
      ⟨rfl, rfl⟩ | ⟨rfl, rfl⟩ | ⟨rfl, rfl⟩ | ⟨rfl, rfl⟩ | ⟨rfl, rfl⟩ | ⟨rfl, rfl⟩
    case inr.inr.inr.inl => obtain rfl | rfl := lt_two_cases hlt <;> rfl
    case inr.inr.inr.inr.inr.inr.inl => obtain rfl | rfl := lt_two_cases hlt <;> rfl
    all_goals
      obtain rfl := lt_one_iff.mp hlt
      rfl

/-- The types are listed once. -/
theorem entityModel_unique {n m : UInt16} (hn : (dt, n) ∈ entityModel)
    (hm : (dt, m) ∈ entityModel) : n = m := by
  have hnodup : (entityModel.map Prod.fst).Nodup := by decide
  exact congrArg Prod.snd (List.inj_on_of_nodup_map hnodup hn hm rfl)

/-- A count of the model is the number of descriptors. -/
theorem known_of_mem {n : UInt16} (h : (dt, n) ∈ entityModel) (i : UInt16) :
    (buildDescriptor dt i s g).isSome ↔ i < n := by
  rw [known_iff]
  constructor
  · rintro ⟨m, hm, hlt⟩
    exact entityModel_unique hm h ▸ hlt
  · exact fun hlt => ⟨n, h, hlt⟩

/-- No index of a type that the model has not is known. -/
theorem unknown_of_notMem (h : dt ∉ entityModel.map Prod.fst) (i : UInt16) :
    ¬ (buildDescriptor dt i s g).isSome := by
  rw [known_iff]
  rintro ⟨n, hmem, -⟩
  exact h (List.mem_map_of_mem hmem)

theorem known_type_iff : (∃ i, (buildDescriptor dt i s g).isSome) ↔ dt ∈ entityModel.map Prod.fst := by
  constructor
  · rintro ⟨i, hi⟩
    by_contra hnot
    exact unknown_of_notMem hnot i hi
  · intro hmem
    obtain ⟨⟨_, n⟩, hn, rfl⟩ := List.mem_map.mp hmem
    have hpos : ∀ p ∈ entityModel, 0 < p.2 := List.forall_iff_forall_mem.mp (by decide)
    exact ⟨0, (known_of_mem hn 0).mpr (hpos _ hn)⟩

theorem built_headed (h : Built s g dt di d) : ∃ n, 4 ≤ n ∧ n ≤ 452 ∧ Headed dt di n d := by
  cases h with
  | entity h => obtain ⟨rfl, hhead, -⟩ := entity_read h; exact ⟨312, by decide, by decide, hhead⟩
  | configuration h =>
    obtain ⟨rfl, hhead, -⟩ := configuration_read h; exact ⟨102, by decide, by decide, hhead⟩
  | audioUnit h =>
    obtain ⟨rfl, hhead, -⟩ := audioUnit_read h; exact ⟨148, by decide, by decide, hhead⟩
  | streamInput h => exact ⟨140, by decide, by decide, (streamInput_read h).2.1.headed⟩
  | streamOutput h => exact ⟨140, by decide, by decide, (streamOutput_read h).2.1.headed⟩
  | avbInterface h =>
    obtain ⟨rfl, hhead, -⟩ := avbInterface_read h; exact ⟨98, by decide, by decide, hhead⟩
  | clockSource h => exact ⟨86, by decide, by decide, (clockSource_read h).2.1⟩
  | clockDomain h =>
    obtain ⟨rfl, hhead, -⟩ := clockDomain_read h; exact ⟨80, by decide, by decide, hhead⟩
  | locale h => obtain ⟨rfl, hhead, -⟩ := locale_read h; exact ⟨72, by decide, by decide, hhead⟩
  | strings h => obtain ⟨rfl, hhead⟩ := strings_read h; exact ⟨452, by decide, by decide, hhead⟩
  | portInput h =>
    obtain ⟨rfl, hhead, -⟩ := streamPort_read h; exact ⟨20, by decide, by decide, hhead⟩
  | portOutput h =>
    obtain ⟨rfl, hhead, -⟩ := streamPort_read h; exact ⟨20, by decide, by decide, hhead⟩

/-- What CONFIGURATION counts. -/
def topLevelCounts : List (UInt16 × UInt16) :=
  [(aemDescAudioUnit, 1), (aemDescStreamInput, nStreamInputs), (aemDescStreamOutput, nStreamOutputs),
    (aemDescAvbInterface, 1), (aemDescClockSource, nClockSources), (aemDescLocale, 1),
    (aemDescClockDomain, 1)]

theorem configuration_counts (h : buildDescConfiguration di = some d) :
    counts aemDescConfiguration d = topLevelCounts := by
  obtain ⟨-, -, -, -, hcount, hoff, h0, n0, h1, n1, h2, n2, h3, n3, h4, n4, h5, n5, h6, n6⟩ :=
    configuration_read h
  have hcounts : counts aemDescConfiguration d = (List.range (field16 d 70).toNat).map fun k =>
      (field16 d ((field16 d 72).toNat + 4 * k),
        field16 d ((field16 d 72).toNat + 4 * k + 2)) := rfl
  rw [hcounts, hcount, hoff]
  show [(field16 d 74, field16 d 76), (field16 d 78, field16 d 80),
    (field16 d 82, field16 d 84), (field16 d 86, field16 d 88), (field16 d 90, field16 d 92),
    (field16 d 94, field16 d 96), (field16 d 98, field16 d 100)] = _
  rw [h0, n0, h1, n1, h2, n2, h3, n3, h4, n4, h5, n5, h6, n6]
  rfl

/-- A count is the model's, or zero of a type the model has not. -/
theorem built_counts (h : Built s g dt di d) : ∀ p ∈ counts dt d,
    p ∈ entityModel ∨ p.2 = 0 ∧ p.1 ∉ entityModel.map Prod.fst := by
  cases h with
  | entity h =>
    obtain ⟨-, -, -, houtputs, hinputs, -, -, hconfigurations, -⟩ := entity_read h
    have hcounts : counts aemDescEntity d = [(aemDescStreamOutput, field16 d 24),
        (aemDescStreamInput, field16 d 28), (aemDescConfiguration, field16 d 308)] := rfl
    rw [hcounts, houtputs, hinputs, hconfigurations]
    exact List.forall_iff_forall_mem.mp (by decide)
  | configuration h =>
    rw [configuration_counts h]
    exact List.forall_iff_forall_mem.mp (by decide)
  | audioUnit h =>
    obtain ⟨-, -, -, -, -, hinputs, -, houtputs, -, -, -, hother⟩ := audioUnit_read h
    have hcounts : counts aemDescAudioUnit d = [(aemDescStreamPortInput, field16 d 72),
        (aemDescStreamPortOutput, field16 d 76), (aemDescExternalPortInput, field16 d 80),
        (aemDescExternalPortOutput, field16 d 84), (aemDescInternalPortInput, field16 d 88),
        (aemDescInternalPortOutput, field16 d 92)] := rfl
    rw [hcounts, hinputs, houtputs, hother 80 (by decide), hother 84 (by decide),
      hother 88 (by decide), hother 92 (by decide)]
    exact List.forall_iff_forall_mem.mp (by decide)
  | locale h =>
    obtain ⟨-, -, hstrings, -⟩ := locale_read h
    have hcounts : counts aemDescLocale d = [(aemDescStrings, field16 d 68)] := rfl
    rw [hcounts, hstrings]
    exact List.forall_iff_forall_mem.mp (by decide)
  | _ => exact fun p hp => nomatch hp

theorem topLevel_iff (dt : UInt16) : dt ∈ topLevelCounts.map Prod.fst ↔
    TopLevel dt ∧ dt ∈ entityModel.map Prod.fst := by
  have hlisted : ∀ dt ∈ topLevelCounts.map Prod.fst,
      TopLevel dt ∧ dt ∈ entityModel.map Prod.fst :=
    List.forall_iff_forall_mem.mp (by decide)
  have hmodel : ∀ dt ∈ entityModel.map Prod.fst,
      TopLevel dt → dt ∈ topLevelCounts.map Prod.fst :=
    List.forall_iff_forall_mem.mp (by decide)
  exact ⟨hlisted dt, fun h => hmodel dt h.2 h.1⟩

theorem inModel_first {dt : UInt16} (h : (dt, 1) ∈ entityModel) : InModel dt 0 :=
  ⟨1, h, by decide⟩

theorem built_references (h : Built s g dt di d) : ∀ r ∈ references dt d, InModel r.1 r.2 := by
  have hdomain : InModel aemDescClockDomain 0 := inModel_first (by simp [entityModel])
  have hports : InModel aemDescStreamPortInput 0 ∧ InModel aemDescStreamPortOutput 0 :=
    ⟨inModel_first (by simp [entityModel]), inModel_first (by simp [entityModel])⟩
  have hinput : InModel aemDescStreamInput 0 := ⟨2, by simp [entityModel], by decide⟩
  have hsources {i : UInt16} (hlt : i < 2) : InModel aemDescClockSource i :=
    ⟨2, by simp [entityModel], hlt⟩
  have hstream {dt di : UInt16} (h : Stream dt di d) :
      ∀ r ∈ [(aemDescClockDomain, field16 d 70), (aemDescAvbInterface, field16 d 104)],
        InModel r.1 r.2 := by
    rw [h.clockDomain, h.avbInterface]
    simpa using ⟨hdomain, inModel_first (by simp [entityModel])⟩
  cases h with
  | entity h =>
    obtain ⟨-, -, -, -, -, -, -, -, hcurrent⟩ := entity_read h
    have href : references aemDescEntity d = [(aemDescConfiguration, field16 d 310)] := rfl
    rw [href, hcurrent]
    simpa using inModel_first (by simp [entityModel])
  | audioUnit h =>
    obtain ⟨-, -, -, -, hclock, -, hbaseIn, -, hbaseOut, -⟩ := audioUnit_read h
    have href : references aemDescAudioUnit d = [(aemDescClockDomain, field16 d 70),
        (aemDescStreamPortInput, field16 d 74), (aemDescStreamPortOutput, field16 d 78)] := rfl
    rw [href, hclock, hbaseIn, hbaseOut]
    simpa using ⟨hdomain, hports⟩
  | streamInput h => exact hstream (streamInput_read h).2.1
  | streamOutput h => exact hstream (streamOutput_read h).2.1
  | clockSource h =>
    obtain ⟨-, -, -, -, htype, hindex⟩ := clockSource_read h
    have href : references aemDescClockSource d = [(field16 d 82, field16 d 84)] := rfl
    rw [href, htype, hindex]
    split
    · simpa using inModel_first (by simp [entityModel])
    · simpa using hinput
  | clockDomain h =>
    obtain ⟨-, -, -, -, hcurrent, hoff, hcount, hfirst, hsecond⟩ := clockDomain_read h
    have href : references aemDescClockDomain d = (aemDescClockSource, field16 d 70) ::
        (List.range (field16 d 74).toNat).map fun k =>
          (aemDescClockSource, field16 d ((field16 d 72).toNat + 2 * k)) := rfl
    rw [href, hcount, hoff]
    show ∀ r ∈ [(aemDescClockSource, field16 d 70), (aemDescClockSource, field16 d 76),
      (aemDescClockSource, field16 d 78)], InModel r.1 r.2
    rw [hfirst, hsecond]
    simpa using ⟨hsources hcurrent, hsources (by decide), hsources (by decide)⟩
  | locale h =>
    obtain ⟨-, -, -, hbase⟩ := locale_read h
    have href : references aemDescLocale d = [(aemDescStrings, field16 d 70)] := rfl
    rw [href, hbase]
    simpa using inModel_first (by simp [entityModel])
  | portInput h =>
    obtain ⟨-, -, hclock⟩ := streamPort_read h
    have href : references aemDescStreamPortInput d = [(aemDescClockDomain, field16 d 4)] := rfl
    rw [href, hclock]
    simpa using hdomain
  | portOutput h =>
    obtain ⟨-, -, hclock⟩ := streamPort_read h
    have href : references aemDescStreamPortOutput d = [(aemDescClockDomain, field16 d 4)] := rfl
    rw [href, hclock]
    simpa using hdomain
  | _ => exact fun r hr => nomatch hr

/-- Strings are named by the entity, its vendor's and its model's. -/
theorem built_stringRefs (h : Built s g dt di d) : ∀ r ∈ stringRefs dt d, r = 0 ∨ r = 1 := by
  have hnone {dt : UInt16} (href : stringRefs dt d = [field16 d 68].filter (· ≠ 0xFFFF))
      (hfield : field16 d 68 = 0xFFFF) : ∀ r ∈ stringRefs dt d, r = 0 ∨ r = 1 := by
    rw [href, hfield]
    exact fun r hr => nomatch hr
  cases h with
  | entity h =>
    obtain ⟨-, -, -, -, -, hvendor, hmodel, -⟩ := entity_read h
    have href : stringRefs aemDescEntity d =
        [field16 d 112, field16 d 114].filter (· ≠ 0xFFFF) := rfl
    rw [href, hvendor, hmodel]
    intro r hr
    simpa using (List.mem_filter.mp hr).1
  | configuration h => exact hnone rfl (configuration_read h).2.2.2.1
  | audioUnit h => exact hnone rfl (audioUnit_read h).2.2.2.1
  | streamInput h => exact hnone rfl (streamInput_read h).2.1.description
  | streamOutput h => exact hnone rfl (streamOutput_read h).2.1.description
  | avbInterface h => exact hnone rfl (avbInterface_read h).2.2.2
  | clockSource h => exact hnone rfl (clockSource_read h).2.2.2.1
  | clockDomain h => exact hnone rfl (clockDomain_read h).2.2.2.1
  | _ => exact fun r hr => nomatch hr

theorem built_tables (h : Built s g dt di d) :
    ∀ t ∈ tables dt d, t.offset.toNat + t.count.toNat * t.size ≤ d.length := by
  have hone {a : List Table} {off count : UInt16} {size n : Nat}
      (ha : a = [⟨off, count, size⟩]) (hlen : d.length = n)
      (hin : off.toNat + count.toNat * size ≤ n) :
      ∀ t ∈ a, t.offset.toNat + t.count.toNat * t.size ≤ d.length := by
    rw [ha, hlen]
    simpa using hin
  have hstream {dt di : UInt16} (h : Stream dt di d) :
      ∀ t ∈ [Table.mk (field16 d 82) (field16 d 84) 8],
        t.offset.toNat + t.count.toNat * t.size ≤ d.length :=
    hone rfl h.headed.length (by rw [h.formatsOffset, h.formats]; decide)
  cases h with
  | configuration h =>
    obtain ⟨-, hhead, -, -, hcount, hoff, -⟩ := configuration_read h
    exact hone rfl hhead.length (by rw [hoff, hcount]; decide)
  | audioUnit h =>
    obtain ⟨-, hhead, -, -, -, -, -, -, -, hoff, hcount, -⟩ := audioUnit_read h
    exact hone rfl hhead.length (by rw [hoff, hcount]; decide)
  | streamInput h => exact hstream (streamInput_read h).2.1
  | streamOutput h => exact hstream (streamOutput_read h).2.1
  | clockDomain h =>
    obtain ⟨-, hhead, -, -, -, hoff, hcount, -⟩ := clockDomain_read h
    exact hone rfl hhead.length (by rw [hoff, hcount]; decide)
  | _ => exact fun t ht => nomatch ht

theorem buildDescriptor_consistent (s : Avdecc) (g : Gptp) :
    SelfConsistent fun dt di => buildDescriptor dt di s g where
  known := known_iff s g
  echoed _ _ _ h := by
    obtain ⟨n, hmin, -, hhead⟩ := built_headed (buildDescriptor_built h)
    exact ⟨hhead.length ▸ hmin, hhead.descType, hhead.descIndex⟩
  counted _ _ _ h p hp i := by
    rcases built_counts (buildDescriptor_built h) p hp with hmem | ⟨hzero, hnot⟩
    · exact known_of_mem hmem i
    · rw [hzero]
      exact iff_of_false (unknown_of_notMem hnot i) UInt16.not_lt_zero
  listed di d h dt := by
    have hconfiguration : buildDescConfiguration di = some d := h
    rw [configuration_counts hconfiguration, topLevel_iff, known_type_iff]
  resolved _ _ _ h r hr := (known_iff ..).mpr (built_references (buildDescriptor_built h) r hr)
  strings _ _ _ h r hr := by
    obtain ⟨strs, hstrs⟩ : ∃ strs, buildDescStrings 0 = some strs := ⟨_, rfl⟩
    obtain ⟨l, hl⟩ : ∃ l, buildDescLocale 0 = some l := ⟨_, rfl⟩
    have hbase : field16 l 70 = 0 := (locale_read hl).2.2.2
    have hlength : strs.length = 452 := (strings_read hstrs).2.length
    refine ⟨l, strs, hl, ?_, ?_⟩
    · rw [hbase]
      rcases built_stringRefs (buildDescriptor_built h) r hr with rfl | rfl <;> exact hstrs
    · rw [hlength]
      rcases built_stringRefs (buildDescriptor_built h) r hr with rfl | rfl <;> decide
  inside _ _ _ h := built_tables (buildDescriptor_built h)

end Model

-- ---------------------------------------------------------------------------
-- The answers
-- ---------------------------------------------------------------------------

/-- An AEM command for us of a type and of a length. -/
structure Commands (s : Avdecc) (c : AecpCommand) (cmd : UInt16) (len : Nat) : Prop where
  message : c.pdu 1 &&& 0x0F = aecpMsgAemCommand
  target : targetsUs s c
  command : aemCmdType c = cmd
  length : len ≤ c.pduLen

/-- What is sent from an offset of the response's PDU on. -/
def sentBytes (o : AecpOutcome) (off n : Nat) : Option (List UInt8) :=
  o.sent.map fun len => ((o.slot.take len).drop (14 + off)).take n

/-- The descriptor in a successful answer: what is left of the control data
behind the configuration's index. -/
def descriptorRead (o : AecpOutcome) : Option (List UInt8) :=
  if responseStatus o.slot = aecpStatusSuccess then sentBytes o 28 (responseCdl o.slot - 16) else none

section Answers

variable {s : Avdecc} {c : AecpCommand}

theorem aecpRespond_read {fields : List (Nat × List UInt8)} {status : UInt8} {cdl : UInt16}
    {b : Buffer} {len n : Nat} (h : aecpRespond s c fields status cdl n = some (b, len))
    (hfields : Contiguous 24 fields) :
    len = n ∧ responseStatus b = status &&& 0x1F ∧ responseCdl b = (cdl &&& 0x7FF).toNat ∧
      b.Holds 38 (fields.flatMap Prod.snd) := by
  obtain ⟨hb, hlen⟩ := Prod.mk.inj (Option.some.inj h)
  subst hb
  refine ⟨hlen.symm, responseStatus_aecpSetStatusCdl .., responseCdl_aecpSetStatusCdl .., ?_⟩
  intro i hi
  rw [putPdus_contiguous _ hfields, aecpSetStatusCdl, putPdu,
    Buffer.copy_outside (.inr (by rw [be16_length]; omega))]
  exact Buffer.holds_copy_at _ 38 _ i hi

theorem aecpHandle_command {cmd : UInt16} {n : Nat} (h : Commands s c cmd n)
    {b : Buffer} {len : Nat} (hreply : (aemCommand (counted s) c cmd).2 = some (b, len)) :
    (aecpHandle s c).sent = some len ∧ (aecpHandle s c).slot = b :=
  aecpHandle_reply h.message h.target h.command hreply

theorem sentBytes_holds {o : AecpOutcome} {len off : Nat} {bytes : List UInt8}
    (hsent : o.sent = some len) (hin : 14 + off + bytes.length ≤ len)
    (h : o.slot.Holds (14 + off) bytes) : sentBytes o off bytes.length = some bytes := by
  rw [sentBytes, hsent, Option.map_some, Buffer.drop_take, Buffer.take_take _ (by omega), h.take]

theorem stated_length {n : Nat} (h : n ≤ 452) :
    ((16 + n.toUInt16) &&& 0x7FF).toNat = 16 + n := by
  have hn : n.toUInt16.toNat = n := by
    rw [Nat.toUInt16_eq, UInt16.toNat_ofNat']
    omega
  rw [UInt16.toNat_and, UInt16.toNat_add, hn]
  exact (Nat.and_two_pow_sub_one_eq_mod _ 11).trans (by simp; omega)

theorem readDescriptor_answer (h : Commands s c aemCmdReadDescriptor 32) :
    descriptorRead (aecpHandle s c) =
      buildDescriptor (c.field 28) (c.field 30) s c.gptp := by
  cases hbuild : buildDescriptor (c.field 28) (c.field 30) s c.gptp with
  | none =>
    obtain ⟨b, hreply⟩ : ∃ b, aecpRespond (counted s) c
        [(24, be16 (c.field 24)), (26, be16 0)] aecpStatusNotImplemented 16 42 = some (b, 42) :=
      ⟨_, rfl⟩
    have hcommand : (aemCommand (counted s) c aemCmdReadDescriptor).2 = some (b, 42) := by
      show aemReadDescriptor (counted s) c = _
      have hnone : buildDescriptor (c.field 28) (c.field 30) (counted s) c.gptp = none := hbuild
      rw [aemReadDescriptor, if_neg (Nat.not_lt.mpr h.length), hnone]
      exact hreply
    obtain ⟨-, hstatus, -⟩ := aecpRespond_read hreply ⟨rfl, rfl, trivial⟩
    rw [descriptorRead, (aecpHandle_command h hcommand).2, hstatus, if_neg (by decide)]
  | some d =>
    obtain ⟨n, -, hmax, hhead⟩ := built_headed (buildDescriptor_built hbuild)
    rw [← hhead.length] at hmax
    obtain ⟨b, hreply⟩ : ∃ b, aecpRespond (counted s) c
        [(24, be16 (c.field 24)), (26, be16 0), (28, d)] aecpStatusSuccess
        (16 + d.length.toUInt16) (max 64 (14 + 28 + d.length)) =
          some (b, max 64 (14 + 28 + d.length)) := ⟨_, rfl⟩
    have hcommand : (aemCommand (counted s) c aemCmdReadDescriptor).2 =
        some (b, max 64 (14 + 28 + d.length)) := by
      show aemReadDescriptor (counted s) c = _
      have hsome : buildDescriptor (c.field 28) (c.field 30) (counted s) c.gptp = some d := hbuild
      rw [aemReadDescriptor, if_neg (Nat.not_lt.mpr h.length), hsome]
      exact hreply
    obtain ⟨-, hstatus, hcdl, hbytes⟩ := aecpRespond_read hreply ⟨rfl, rfl, rfl, trivial⟩
    obtain ⟨hsent, hslot⟩ := aecpHandle_command h hcommand
    have hdesc : (aecpHandle s c).slot.Holds 42 d := by
      rw [hslot]
      simp only [List.flatMap_cons, List.flatMap_nil, List.append_nil] at hbytes
      exact (Buffer.holds_append.mp (Buffer.holds_append.mp hbytes).2).2
    rw [descriptorRead, hslot, hstatus, if_pos (by decide), hcdl, stated_length hmax,
      Nat.add_sub_cancel_left]
    exact sentBytes_holds hsent (by omega) hdesc

/-- Where a descriptor has its name. -/
def nameOffset (dt : UInt16) : Nat := if dt = aemDescEntity then 48 else 4

section Named

variable {g : Gptp} {dt di : UInt16} {d : List UInt8} {name : String}

theorem descriptorName_inModel (h : descriptorName dt di 0 = some name) : InModel dt di := by
  have hserved {dt n : UInt16} {text : String} {p : Prop} [Decidable p]
      (hmem : (dt, n) ∈ entityModel) (hlt : p → di < n)
      (h : (if p then some text else none) = some name) : InModel dt di := by
    split at h
    · exact ⟨n, hmem, hlt ‹p›⟩
    · cases h
  have hfirst {dt : UInt16} {text : String} (hmem : (dt, 1) ∈ entityModel)
      (h : (if di = 0 ∧ (0 : UInt16) = 0 then some text else none) = some name) :
      InModel dt di :=
    hserved hmem (fun hzero => lt_one_iff.mpr hzero.1) h
  unfold descriptorName at h
  refine of_ite_eq h (fun hdt h => ?_) fun _ h => ?_
  · rw [hdt]
    refine of_ite_eq h (fun hzero _ => ?_) fun _ h => ?_
    · rw [hzero.1]
      exact inModel_first (by simp [entityModel])
    · simp at h
  refine of_ite_eq h (fun hdt h => hdt ▸ hfirst (by simp [entityModel]) h) fun _ h => ?_
  refine of_ite_eq h (fun hdt h => hdt ▸ hfirst (by simp [entityModel]) h) fun _ h => ?_
  refine of_ite_eq h (fun hdt h => hdt ▸ hserved (n := 2) (by simp [entityModel]) And.left h)
    fun _ h => ?_
  refine of_ite_eq h (fun hdt h => hdt ▸ hserved (n := 1) (by simp [entityModel]) And.left h)
    fun _ h => ?_
  refine of_ite_eq h (fun hdt h => hdt ▸ hfirst (by simp [entityModel]) h) fun _ h => ?_
  refine of_ite_eq h (fun hdt h => hdt ▸ hserved (n := 2) (by simp [entityModel]) And.left h)
    fun _ h => ?_
  exact of_ite_eq h (fun hdt h => hdt ▸ hfirst (by simp [entityModel]) h) fun _ h => nomatch h

theorem built_name (hbuilt : Built s g dt di d) (h : descriptorName dt di 0 = some name) :
    bytesAt d (nameOffset dt) 64 = name64 name := by
  cases hbuilt with
  | entity hbuild =>
    obtain ⟨rfl, -, hname, -⟩ := entity_read hbuild
    cases h; exact hname
  | configuration hbuild =>
    obtain ⟨rfl, -, hname, -⟩ := configuration_read hbuild
    cases h; exact hname
  | audioUnit hbuild =>
    obtain ⟨rfl, -, hname, -⟩ := audioUnit_read hbuild
    cases h; exact hname
  | streamInput hbuild =>
    obtain ⟨hlt, -, hname, -⟩ := streamInput_read hbuild
    obtain rfl | rfl := lt_two_cases hlt <;> cases h <;> exact hname
  | streamOutput hbuild =>
    obtain ⟨hlt, -, hname, -⟩ := streamOutput_read hbuild
    obtain rfl := lt_one_iff.mp hlt
    cases h; exact hname
  | avbInterface hbuild =>
    obtain ⟨rfl, -, hname, -⟩ := avbInterface_read hbuild
    cases h; exact hname
  | clockSource hbuild =>
    obtain ⟨hlt, -, hname, -⟩ := clockSource_read hbuild
    obtain rfl | rfl := lt_two_cases hlt <;> cases h <;> exact hname
  | clockDomain hbuild =>
    obtain ⟨rfl, -, hname, -⟩ := clockDomain_read hbuild
    cases h; exact hname
  | _ => cases h

theorem descriptorFormat_inModel {fmt : Vector UInt8 8} (h : descriptorFormat dt di = some fmt) :
    InModel dt di := by
  unfold descriptorFormat at h
  split at h
  · obtain rfl := ‹dt = _›
    have hmem : (aemDescStreamInput, 2) ∈ entityModel := by simp [entityModel]
    split at h
    · obtain rfl := ‹di = _›; exact ⟨2, hmem, by decide⟩
    split at h
    · obtain rfl := ‹di = _›; exact ⟨2, hmem, by decide⟩
    · cases h
  split at h
  · obtain ⟨rfl, rfl⟩ := ‹_ ∧ _›
    exact inModel_first (by simp [entityModel])
  · cases h

theorem built_format {fmt : Vector UInt8 8} (hbuilt : Built s g dt di d)
    (h : descriptorFormat dt di = some fmt) : bytesAt d 74 8 = fmt.toList := by
  cases hbuilt with
  | streamInput hbuild =>
    obtain ⟨hlt, -, -, hformat⟩ := streamInput_read hbuild
    obtain rfl | rfl := lt_two_cases hlt <;> cases h <;> exact hformat
  | streamOutput hbuild =>
    obtain ⟨hlt, -, -, hformat⟩ := streamOutput_read hbuild
    obtain rfl := lt_one_iff.mp hlt
    cases h; exact hformat
  | _ => cases h

end Named

theorem getName_answer (h : Commands s c aemCmdGetName 32) (hindex : c.field 28 = 0)
    (hstatus : responseStatus (aecpHandle s c).slot = aecpStatusSuccess) :
    ∃ d, buildDescriptor (c.field 24) (c.field 26) s c.gptp = some d ∧
      sentBytes (aecpHandle s c) 32 64 = some (bytesAt d (nameOffset (c.field 24)) 64) := by
  have hcommand : (aemCommand (counted s) c aemCmdGetName).2 = aemGetName (counted s) c := rfl
  rw [aemGetName, if_neg (Nat.not_lt.mpr h.length), hindex] at hcommand
  dsimp only at hcommand
  generalize hserved : descriptorName (c.field 24) (c.field 26) 0 = served at hcommand
  obtain ⟨b, hreply⟩ : ∃ b, aecpRespond (counted s) c
      [(24, be16 (c.field 24)), (26, be16 (c.field 26)), (28, be16 0), (30, be16 (c.field 30)),
        (32, name64 (served.getD ""))]
      (if served.isSome then aecpStatusSuccess else aecpStatusNoSuchDescriptor) 84 110 =
        some (b, 110) := ⟨_, rfl⟩
  obtain ⟨hsent, hslot⟩ := aecpHandle_command h (hcommand.trans hreply)
  obtain ⟨-, hanswered, -, hbytes⟩ :=
    aecpRespond_read hreply ⟨rfl, rfl, rfl, rfl, rfl, trivial⟩
  rw [hslot, hanswered] at hstatus
  cases served with
  | none => exact absurd hstatus (by decide)
  | some name =>
    obtain ⟨d, hd⟩ := Option.isSome_iff_exists.mp
      ((known_iff s c.gptp _ _).mpr (descriptorName_inModel hserved))
    refine ⟨d, hd, ?_⟩
    rw [built_name (buildDescriptor_built hd) hserved]
    have hname : (aecpHandle s c).slot.Holds 46 (name64 name) := by
      rw [hslot]
      simp only [List.flatMap_cons, List.flatMap_nil, List.append_nil] at hbytes
      exact (Buffer.holds_append.mp (Buffer.holds_append.mp (Buffer.holds_append.mp
        (Buffer.holds_append.mp hbytes).2).2).2).2
    have hin : 14 + 32 + (name64 name).length ≤ 110 := by
      rw [name64_length]
    have hread := sentBytes_holds hsent hin hname
    rwa [name64_length] at hread

theorem getStreamFormat_answer (h : Commands s c aemCmdGetStreamFormat 28)
    (hstatus : responseStatus (aecpHandle s c).slot = aecpStatusSuccess) :
    ∃ d, buildDescriptor (c.field 24) (c.field 26) s c.gptp = some d ∧
      sentBytes (aecpHandle s c) 28 8 = some (bytesAt d 74 8) := by
  have hcommand : (aemCommand (counted s) c aemCmdGetStreamFormat).2 =
      aemGetStreamFormat (counted s) c := rfl
  rw [aemGetStreamFormat, if_neg (Nat.not_lt.mpr h.length)] at hcommand
  have hecho : (c.echo 24 4).length = 4 := Buffer.length_take ..
  cases hserved : descriptorFormat (c.field 24) (c.field 26) with
  | none =>
    rw [hserved] at hcommand
    obtain ⟨b, hreply⟩ : ∃ b, aecpRespond (counted s) c [(24, c.echo 24 4), (28, zeros 8)]
        aecpStatusNoSuchDescriptor 24 64 = some (b, 64) := ⟨_, rfl⟩
    obtain ⟨-, hslot⟩ := aecpHandle_command h (hcommand.trans hreply)
    obtain ⟨-, hanswered, -⟩ := aecpRespond_read hreply ⟨rfl, by rw [hecho], trivial⟩
    rw [hslot, hanswered] at hstatus
    exact absurd hstatus (by decide)
  | some fmt =>
    rw [hserved] at hcommand
    obtain ⟨b, hreply⟩ : ∃ b, aecpRespond (counted s) c [(24, c.echo 24 4), (28, fmt.toList)]
        aecpStatusSuccess 24 64 = some (b, 64) := ⟨_, rfl⟩
    obtain ⟨hsent, hslot⟩ := aecpHandle_command h (hcommand.trans hreply)
    obtain ⟨-, -, -, hbytes⟩ := aecpRespond_read hreply ⟨rfl, by rw [hecho], trivial⟩
    obtain ⟨d, hd⟩ := Option.isSome_iff_exists.mp
      ((known_iff s c.gptp _ _).mpr (descriptorFormat_inModel hserved))
    refine ⟨d, hd, ?_⟩
    rw [built_format (buildDescriptor_built hd) hserved]
    have hformat : (aecpHandle s c).slot.Holds 42 fmt.toList := by
      rw [hslot]
      simp only [List.flatMap_cons, List.flatMap_nil, List.append_nil] at hbytes
      have hbehind := (Buffer.holds_append.mp hbytes).2
      rwa [hecho] at hbehind
    have hin : 14 + 28 + fmt.toList.length ≤ 64 := by
      rw [Vector.length_toList]
      decide
    have hread := sentBytes_holds hsent hin hformat
    rwa [Vector.length_toList] at hread

end Answers

-- ---------------------------------------------------------------------------
-- What a controller reads
-- ---------------------------------------------------------------------------

/-- The descriptors are consistent; READ_DESCRIPTOR answers with them, and
GET_NAME and GET_STREAM_FORMAT with their names and formats. -/
theorem entityModel_consistent (s : Avdecc) (g : Gptp) :
    SelfConsistent (fun dt di => buildDescriptor dt di s g) ∧
      ∀ c : AecpCommand, c.gptp = g →
        (Commands s c aemCmdReadDescriptor 32 →
          descriptorRead (aecpHandle s c) = buildDescriptor (c.field 28) (c.field 30) s g) ∧
        (Commands s c aemCmdGetName 32 → c.field 28 = 0 →
          responseStatus (aecpHandle s c).slot = aecpStatusSuccess →
          ∃ d, buildDescriptor (c.field 24) (c.field 26) s g = some d ∧
            sentBytes (aecpHandle s c) 32 64 = some (bytesAt d (nameOffset (c.field 24)) 64)) ∧
        (Commands s c aemCmdGetStreamFormat 28 →
          responseStatus (aecpHandle s c).slot = aecpStatusSuccess →
          ∃ d, buildDescriptor (c.field 24) (c.field 26) s g = some d ∧
            sentBytes (aecpHandle s c) 28 8 = some (bytesAt d 74 8)) := by
  refine ⟨buildDescriptor_consistent s g, ?_⟩
  rintro c rfl
  exact ⟨readDescriptor_answer, getName_answer, getStreamFormat_answer⟩

/-- A command with the first four words behind the header. -/
def commandFor (s : Avdecc) (cmd first second third fourth : UInt16) : AecpCommand where
  frame := Buffer.ofList (zeros 14 ++ ([avtpSubtypeAecp, aecpMsgAemCommand, 0, 0] ++
    (s.entityId.toList ++ (zeros 10 ++ (be16 cmd ++ (be16 first ++ (be16 second ++
      (be16 third ++ be16 fourth))))))))
  pduLen := 32
  slot _ := 0
  gptp := (gptpInit boardMac).1
  srp := srpInit boardMac

theorem commandFor_reads (s : Avdecc) (cmd : UInt16) (h : cmd &&& 0x7FFF = cmd)
    (first second third fourth : UInt16) :
    Commands s (commandFor s cmd first second third fourth) cmd 32 ∧
      (commandFor s cmd first second third fourth).field 24 = first ∧
      (commandFor s cmd first second third fourth).field 26 = second ∧
      (commandFor s cmd first second third fourth).field 28 = third ∧
      (commandFor s cmd first second third fourth).field 30 = fourth := by
  have hholds := Buffer.holds_ofList (zeros 14 ++ ([avtpSubtypeAecp, aecpMsgAemCommand, 0, 0] ++
    (s.entityId.toList ++ (zeros 10 ++ (be16 cmd ++ (be16 first ++ (be16 second ++
      (be16 third ++ be16 fourth))))))))
  iterate 8 rw [Buffer.holds_append] at hholds
  obtain ⟨-, hhead, htarget, -, hcmd, hfirst, hsecond, hthird, hfourth⟩ := hholds
  simp only [zeros_length, Vector.length_toList, be16_length, List.length_cons,
    List.length_nil] at hhead htarget hcmd hfirst hsecond hthird hfourth
  refine ⟨⟨?_, ?_, ?_, Nat.le_refl _⟩, ?_, ?_, ?_, ?_⟩
  · exact congrArg (· &&& 0x0F) (hhead 1 (by decide))
  · refine beq_iff_eq.mpr (Buffer.Holds.bytes ?_)
    exact Buffer.holds_offset.mpr (Buffer.holds_offset.mpr htarget)
  · exact (congrArg (· &&& 0x7FFF) (Buffer.holds_offset.mpr hcmd).getBe16).trans h
  · exact (Buffer.holds_offset.mpr hfirst).getBe16
  · exact (Buffer.holds_offset.mpr hsecond).getBe16
  · exact (Buffer.holds_offset.mpr hthird).getBe16
  · exact (Buffer.holds_offset.mpr hfourth).getBe16

/-- Asked for its stream input 1, the board sends the descriptor, its name
and its format. -/
theorem audioInput_consistent :
    descriptorRead (aecpHandle (avdeccInit boardMac) (commandFor (avdeccInit boardMac)
      aemCmdReadDescriptor 0 0 aemDescStreamInput 1)) = buildDescStreamInput 1 ∧
    sentBytes (aecpHandle (avdeccInit boardMac) (commandFor (avdeccInit boardMac)
      aemCmdGetName aemDescStreamInput 1 0 0)) 32 64 = some (name64 "Audio Input") ∧
    sentBytes (aecpHandle (avdeccInit boardMac) (commandFor (avdeccInit boardMac)
      aemCmdGetStreamFormat aemDescStreamInput 1 0 0)) 28 8 = some streamFmtAaf8ch48k.toList := by
  obtain ⟨-, hanswers⟩ := entityModel_consistent (avdeccInit boardMac) (gptpInit boardMac).1
  refine ⟨?_, ?_, ?_⟩
  · obtain ⟨hcommand, -, -, hdt, hdi⟩ :=
      commandFor_reads (avdeccInit boardMac) aemCmdReadDescriptor rfl
        0 0 aemDescStreamInput 1
    have hread := (hanswers _ rfl).1 hcommand
    rw [hdt, hdi] at hread
    exact hread
  · obtain ⟨hcommand, hdt, hdi, hindex, -⟩ :=
      commandFor_reads (avdeccInit boardMac) aemCmdGetName rfl aemDescStreamInput 1 0 0
    obtain ⟨d, hd, hsent⟩ := (hanswers _ rfl).2.1 hcommand hindex (by decide +kernel)
    rw [hdt, hdi] at hd
    have hinput : buildDescStreamInput 1 = some d := hd
    obtain ⟨-, -, hname, -⟩ := streamInput_read hinput
    rw [hsent, hdt, nameOffset, if_neg (by decide), hname, if_neg (by decide)]
  · obtain ⟨hcommand, hdt, hdi, -⟩ :=
      commandFor_reads (avdeccInit boardMac) aemCmdGetStreamFormat rfl
        aemDescStreamInput 1 0 0
    have hshort : Commands (avdeccInit boardMac) (commandFor (avdeccInit boardMac)
        aemCmdGetStreamFormat aemDescStreamInput 1 0 0) aemCmdGetStreamFormat 28 :=
      { hcommand with length := by decide }
    obtain ⟨d, hd, hsent⟩ := (hanswers _ rfl).2.2 hshort (by decide +kernel)
    rw [hdt, hdi] at hd
    have hinput : buildDescStreamInput 1 = some d := hd
    obtain ⟨-, -, -, hformat⟩ := streamInput_read hinput
    rw [hsent, hformat, if_neg (by decide)]

end AvbAes3.EntityModel
