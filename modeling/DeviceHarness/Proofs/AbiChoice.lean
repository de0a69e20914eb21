import DeviceHarness.Install.AbiSplits
import Mathlib.Data.Finset.Card
import Mathlib.Data.List.Induction

/-! Which APK an ABI has. A pair for a new ABI adds one entry at the end, and a pair for an old one changes the APK of
its entry and nothing else. So the place of an ABI comes from the first pair that has it, and its APK from the last. -/

namespace DeviceHarness.AbiSplits

/-- The ABIs of pairs, each where it is given first. -/
def firstGiven (pairs : List (String × String)) : List String := (pairs.map Prod.fst).eraseDups

/-- The APK of the last pair with an ABI. -/
def lastGiven? (pairs : List (String × String)) (abi : String) : Option String :=
  ((pairs.filter (·.1 = abi)).getLast?).map Prod.snd

variable (entries pairs : List (String × String)) (abi apk other : String)

theorem abis_assign :
    (assign entries abi apk).map Prod.fst =
      if abi ∈ entries.map Prod.fst then entries.map Prod.fst else entries.map Prod.fst ++ [abi] := by
  induction entries with
  | nil => rfl
  | cons first rest ih =>
    obtain ⟨known, kept⟩ := first
    rw [assign]
    by_cases same : known = abi
    · subst same
      simp
    · have different : abi ≠ known := Ne.symm same
      simp only [if_neg same, List.map_cons, ih, List.mem_cons, different, false_or]
      split <;> rfl

theorem lookup_cons_eq_if (known kept : String) :
    ((known, kept) :: entries).lookup other = if other = known then some kept else entries.lookup other := by
  by_cases asked : other = known
  · rw [asked, List.lookup_cons_self, if_pos rfl]
  · rw [List.lookup_cons, beq_eq_false_iff_ne.mpr asked, if_neg asked]

theorem lookup_assign :
    (assign entries abi apk).lookup other = if other = abi then some apk else entries.lookup other := by
  induction entries with
  | nil => exact lookup_cons_eq_if [] other abi apk
  | cons first rest ih =>
    obtain ⟨known, kept⟩ := first
    rw [assign]
    by_cases same : known = abi
    · subst same
      rw [if_pos rfl, lookup_cons_eq_if, lookup_cons_eq_if]
      split <;> rfl
    · rw [if_neg same, lookup_cons_eq_if, lookup_cons_eq_if, ih]
      by_cases asked : other = known
      · have different : other ≠ abi := asked ▸ same
        rw [if_pos asked, if_neg different, if_pos asked]
      · rw [if_neg asked, if_neg asked]

theorem mem_firstGiven : abi ∈ firstGiven pairs ↔ abi ∈ pairs.map Prod.fst := List.mem_eraseDups

theorem firstGiven_concat :
    firstGiven (pairs ++ [(abi, apk)]) =
      if abi ∈ firstGiven pairs then firstGiven pairs else firstGiven pairs ++ [abi] := by
  have added : firstGiven (pairs ++ [(abi, apk)]) =
      firstGiven pairs ++ ([abi].removeAll (pairs.map Prod.fst)).eraseDups := by
    rw [firstGiven, List.map_append, List.eraseDups_append]
    rfl
  rw [added]
  by_cases given : abi ∈ pairs.map Prod.fst
  · rw [if_pos ((mem_firstGiven pairs abi).mpr given)]
    simp [List.removeAll, given]
  · rw [if_neg (mt (mem_firstGiven pairs abi).mp given)]
    simp [List.removeAll, given, List.eraseDups_cons]

theorem lastGiven?_concat :
    lastGiven? (pairs ++ [(abi, apk)]) other = if other = abi then some apk else lastGiven? pairs other := by
  unfold lastGiven?
  by_cases same : other = abi
  · simp [same]
  · have different : ¬ abi = other := Ne.symm same
    simp [same, different]

theorem entries_ofList_concat :
    (ofList (pairs ++ [(abi, apk)])).entries = assign (ofList pairs).entries abi apk := by
  simp [ofList]

/-! What pairs leave. The inductions take the last pair away, since it is the one that is assigned last. -/

theorem abis_ofList : (ofList pairs).entries.map Prod.fst = firstGiven pairs := by
  induction pairs using List.reverseRecOn with
  | nil => rfl
  | append_singleton pairs pair ih =>
    obtain ⟨abi, apk⟩ := pair
    rw [entries_ofList_concat, abis_assign, firstGiven_concat, ih]

theorem get?_ofList : (ofList pairs).get? abi = lastGiven? pairs abi := by
  induction pairs using List.reverseRecOn with
  | nil => rfl
  | append_singleton pairs pair ih =>
    obtain ⟨given, apk⟩ := pair
    rw [get?, entries_ofList_concat, lookup_assign, lastGiven?_concat, ← ih, get?]

theorem nodup_firstGiven : (firstGiven pairs).Nodup := by
  induction pairs using List.reverseRecOn with
  | nil => exact List.nodup_nil
  | append_singleton pairs pair ih =>
    obtain ⟨abi, apk⟩ := pair
    rw [firstGiven_concat]
    split
    next => exact ih
    next new => exact ih.append (List.nodup_singleton abi) (by simpa using new)

theorem lastGiven?_eq_none_iff : lastGiven? pairs abi = none ↔ abi ∉ pairs.map Prod.fst := by
  rw [lastGiven?, Option.map_eq_none_iff, List.getLast?_eq_none_iff, List.filter_eq_nil_iff, List.mem_map, not_exists]
  refine forall_congr' fun pair => ?_
  rw [decide_eq_true_eq, not_and]

/-- Where no ABI stands twice, the APK beside it is the one that is found. -/
theorem lookup_of_mem {entries : List (String × String)} (distinct : (entries.map Prod.fst).Nodup)
    {pair : String × String} (member : pair ∈ entries) : entries.lookup pair.1 = some pair.2 := by
  induction entries with
  | nil => cases member
  | cons first rest ih =>
    obtain ⟨new, others⟩ := List.nodup_cons.mp distinct
    rcases List.mem_cons.mp member with rfl | later
    · exact List.lookup_cons_self
    · have different : pair.1 ≠ first.1 := fun same => new (List.mem_map.mpr ⟨pair, later, same⟩)
      rw [lookup_cons_eq_if, if_neg different, ih others later]

/-- Each ABI is kept once, where it was given first, with the APK that was given last, and the APKs come in that order.
What is kept is kept again. -/
theorem ofList_keeps_last :
    (ofList pairs).entries.map Prod.fst = (pairs.map Prod.fst).eraseDups ∧
      ((ofList pairs).entries.map Prod.fst).Nodup ∧
      (∀ abi, (ofList pairs).get? abi = lastGiven? pairs abi) ∧
      (∀ abi, (ofList pairs).get? abi = none ↔ abi ∉ pairs.map Prod.fst) ∧
      (ofList pairs).size = (pairs.map Prod.fst).toFinset.card ∧
      (ofList pairs).apks.map some = (pairs.map Prod.fst).eraseDups.map (lastGiven? pairs) ∧
      ofList (ofList pairs).entries = ofList pairs := by
  have abis : (ofList pairs).entries.map Prod.fst = firstGiven pairs := abis_ofList pairs
  have distinct : ((ofList pairs).entries.map Prod.fst).Nodup := abis ▸ nodup_firstGiven pairs
  have found : (ofList pairs).get? = lastGiven? pairs := funext (get?_ofList pairs)
  refine ⟨abis, distinct, get?_ofList pairs, fun abi => ?_, ?_, ?_, ofList_of_distinct distinct⟩
  · rw [found, lastGiven?_eq_none_iff]
  · have same : (pairs.map Prod.fst).toFinset = (firstGiven pairs).toFinset := by
      ext abi
      rw [List.mem_toFinset, List.mem_toFinset, mem_firstGiven]
    rw [same, List.toFinset_card_of_nodup (nodup_firstGiven pairs), ← abis, List.length_map, size]
  · rw [← firstGiven, ← abis, ← found, apks, List.map_map, List.map_map]
    exact List.map_congr_left fun pair member => (lookup_of_mem distinct member).symm

/-- The second APK of `x86` stands where the first one was. -/
example : ofList [("x86", "a.apk"), ("mips", "b.apk"), ("x86", "c.apk")] = ⟨[("x86", "c.apk"), ("mips", "b.apk")]⟩ := by
  decide +kernel

end DeviceHarness.AbiSplits
