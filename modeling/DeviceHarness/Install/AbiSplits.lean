import DeviceHarness.Error

/-! Which APK carries the native code of which ABI. Each ABI has one APK, the last one given for it,
and the ABIs keep the order in which they were first given. -/

namespace DeviceHarness

structure AbiSplits where
  entries : List (String × String)
  deriving Repr, DecidableEq

namespace AbiSplits

/-- Gives an ABI its APK, in place of the one it had. -/
def assign (entries : List (String × String)) (abi apk : String) : List (String × String) :=
  match entries with
  | [] => [(abi, apk)]
  | (other, kept) :: rest =>
    if other = abi then (abi, apk) :: rest else (other, kept) :: assign rest abi apk

def ofList (pairs : List (String × String)) : AbiSplits :=
  ⟨pairs.foldl (fun entries (abi, apk) => assign entries abi apk) []⟩

/-- The APKs that are used when the configuration names none. -/
def default : AbiSplits :=
  ofList (["x86", "x86_64", "armeabi-v7a", "armeabi", "arm64-v8a", "mips64", "mips"].map fun abi =>
    (abi, "CtsSplitApp_" ++ abi ++ ".apk"))

def get? (s : AbiSplits) (abi : String) : Option String := s.entries.lookup abi

/-- The APK of an ABI that is under test, which has to have one. -/
def require (s : AbiSplits) (abi : String) : Except Error String :=
  match s.get? abi with
  | some apk => .ok apk
  | none => .error (.assertion ("failed to find APK for ABI " ++ abi))

def apks (s : AbiSplits) : List String := s.entries.map Prod.snd

def size (s : AbiSplits) : Nat := s.entries.length

theorem assign_new {entries : List (String × String)} {abi : String} (new : abi ∉ entries.map Prod.fst)
    (apk : String) : assign entries abi apk = entries ++ [(abi, apk)] := by
  induction entries with
  | nil => rfl
  | cons head rest ih =>
    obtain ⟨different, later⟩ := not_or.mp (mt List.mem_cons.mpr new)
    rw [assign, if_neg (Ne.symm different), ih later]
    rfl

theorem foldl_assign_of_distinct (done : List (String × String)) {rest : List (String × String)}
    (distinct : ((done ++ rest).map Prod.fst).Nodup) :
    rest.foldl (fun entries (abi, apk) => assign entries abi apk) done = done ++ rest := by
  induction rest generalizing done with
  | nil => exact (List.append_nil done).symm
  | cons pair rest ih =>
    obtain ⟨abi, apk⟩ := pair
    have new : abi ∉ done.map Prod.fst := by
      rw [List.map_append] at distinct
      exact fun member => (List.nodup_append.mp distinct).2.2 _ member _ List.mem_cons_self rfl
    rw [List.append_cons] at distinct ⊢
    rw [List.foldl_cons, ← ih _ distinct, ← assign_new new]

/-- Where each ABI is given once, each keeps its APK. -/
theorem ofList_of_distinct {pairs : List (String × String)} (distinct : (pairs.map Prod.fst).Nodup) :
    ofList pairs = ⟨pairs⟩ :=
  congrArg AbiSplits.mk (foldl_assign_of_distinct [] distinct)

end AbiSplits
end DeviceHarness
