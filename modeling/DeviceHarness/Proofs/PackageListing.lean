import DeviceHarness.Install.Apps
import DeviceHarness.Proofs.AdbSteps
import Mathlib.Data.List.Basic

/-! Packages that are installed. A device that is asked for a name lists every package whose name contains it, so the
listing may be long and the package absent all the same. Only a line of that very name counts: what is uninstalled
is there, and what is there is uninstalled. -/

namespace DeviceHarness.Install

/-- A package as a device lists it. Its name has no blanks. -/
structure ListedPackage where
  name : String
  solid : name.toList.all (!Text.isBlank ·) = true

def ListedPackage.line (p : ListedPackage) : String := "package:" ++ p.name

/-- A listing, which ends with any number of line feeds. -/
def packageListing (packages : List ListedPackage) (feeds : Nat) : String :=
  String.intercalate "\n" (packages.map ListedPackage.line ++ List.replicate feeds "")

namespace ListedPackage

variable (p : ListedPackage)

theorem toList_line : p.line.toList = "package:".toList ++ p.name.toList := String.toList_append

theorem line_solid : ∀ c ∈ p.line.toList, Text.isBlank c = false := by
  have label : "package:".toList.all (!Text.isBlank ·) = true := by decide +kernel
  have all : p.line.toList.all (!Text.isBlank ·) = true := by
    rw [toList_line, List.all_append, label, p.solid, Bool.and_true]
  simpa using all

/-- A line is for its own package only. -/
theorem line_shows_iff (package : String) :
    Text.after? "package:".toList (Text.trimmed p.line.toList) = some package.toList ↔ package = p.name := by
  rw [Text.trimmed_of_no_blank p.line_solid, Text.after?_eq_some, toList_line, List.append_cancel_left_eq, eq_comm,
    String.toList_inj]

end ListedPackage

theorem mem_lines_packageListing (packages : List ListedPackage) (feeds : Nat) {line : String} (filled : line ≠ "") :
    line ∈ Text.lines (packageListing packages feeds) ↔ ∃ p ∈ packages, p.line = line := by
  have each : ∀ l ∈ packages.map ListedPackage.line ++ List.replicate feeds "",
      '\n' ∉ l.toList ∧ l.toList.getLast? ≠ some '\r' := by
    intro l member
    rcases List.mem_append.mp member with shown | feed
    · obtain ⟨p, -, rfl⟩ := List.mem_map.mp shown
      constructor
      · intro inside
        cases p.line_solid '\n' inside
      · intro last
        cases p.line_solid '\r' (List.mem_of_getLast? last)
    · rw [List.eq_of_mem_replicate feed]
      decide
  rw [packageListing, Text.mem_lines_intercalate each filled, List.mem_append, List.mem_map]
  simp [filled]

theorem lists_packageListing (packages : List ListedPackage) (feeds : Nat) (package : String) :
    lists (packageListing packages feeds) package = true ↔ package ∈ packages.map ListedPackage.name := by
  simp only [lists, List.any_eq_true, beq_iff_eq, List.mem_map]
  constructor
  · rintro ⟨line, member, shows⟩
    -- the empty lines at the end of a listing show nothing
    have filled : line ≠ "" := by
      rintro rfl
      cases shows
    obtain ⟨p, among, rfl⟩ := (mem_lines_packageListing packages feeds filled).mp member
    exact ⟨p, among, ((p.line_shows_iff package).mp shows).symm⟩
  · rintro ⟨p, among, rfl⟩
    have filled : p.line ≠ "" := by simp [ListedPackage.line]
    exact ⟨p.line, (mem_lines_packageListing packages feeds filled).mpr ⟨p, among, rfl⟩, (p.line_shows_iff p.name).mpr rfl⟩

theorem listCommand_eq (package : String) : listCommand package = "pm list packages " ++ package := rfl

section Requests

variable {adb : Adb} {h : Host} {package : String} {c : Completion}

/-- A name that was asked for may be handed to a program on its own. -/
theorem uninstall_sendable (asked : adb.reply h ["shell", listCommand package] = .ok c) (before : List (List String)) :
    ∃ d, adb.reply (adb.after h before) ["uninstall", package] = .ok d := by
  obtain ⟨arguments, -, fits⟩ := (adb.reply_isOk h _).mp ⟨c, asked⟩
  have inside : listCommand package ∈ adb.program :: adb.arguments ["shell", listCommand package] := by
    rw [Adb.arguments_eq]
    simp
  have plain : Host.isArgument package = true := by
    have whole : '\x00' ∉ (listCommand package).toList := by
      simpa [Host.isArgument] using List.all_eq_true.mp arguments _ inside
    rw [listCommand_eq, String.toList_append, List.mem_append, not_or] at whole
    simpa [Host.isArgument] using whole.2
  have short : package.utf8ByteSize ≤ Host.longestArgument := by
    have whole := of_decide_eq_true (List.all_eq_true.mp (Bool.and_eq_true_iff.mp fits).1 _ inside)
    rw [listCommand_eq, String.utf8ByteSize_append] at whole
    omega
  refine adb.reply_later h asked before ?_ ?_
  · simp only [List.all_cons, List.all_nil, plain, Bool.and_true]
    decide
  · simp only [List.all_cons, List.all_nil, short, decide_true, Bool.and_true]
    decide

theorem perform_isInstalled (asked : adb.reply h ["shell", listCommand package] = .ok c) {listing : String}
    (prints : c.Prints listing) :
    (isInstalled adb package).perform h = (.ok (lists listing package), adb.after h [["shell", listCommand package]]) := by
  rw [isInstalled, Action.perform_bind, Adb.perform_shellText, asked]
  dsimp only
  rw [Completion.answer_eq_ok.mpr prints]
  rfl

theorem perform_uninstall_request (h : Host) :
    (adb.uninstall package).perform h =
      match adb.reply h ["uninstall", package] with
      | .ok d => (d.requireDone, adb.after h [["uninstall", package]])
      | .error e => (.error e, h) := by
  rw [Adb.uninstall, Action.perform_bind, Adb.perform_request]
  cases adb.reply h ["uninstall", package] <;> rfl

/-- Where the device lists its packages, a package is installed exactly if the list has its very name. Then it is
uninstalled by one more request, on which the outcome depends, and otherwise nothing more is done and all is well. -/
theorem uninstalls_iff_listed (packages : List ListedPackage) (feeds : Nat)
    (asked : adb.reply h ["shell", "pm list packages " ++ package] = .ok c)
    (prints : c.Prints (packageListing packages feeds)) :
    let list := ["shell", "pm list packages " ++ package]
    (isInstalled adb package).perform h =
        (.ok (decide (package ∈ packages.map ListedPackage.name)), adb.after h [list]) ∧
      (package ∈ packages.map ListedPackage.name →
        ∃ d, adb.reply (adb.after h [list]) ["uninstall", package] = .ok d ∧
          (uninstall adb package).perform h = (d.requireDone, adb.after h [list, ["uninstall", package]])) ∧
      (package ∉ packages.map ListedPackage.name → (uninstall adb package).perform h = (.ok (), adb.after h [list])) := by
  intro list
  have found := perform_isInstalled asked prints
  have answer : lists (packageListing packages feeds) package = decide (package ∈ packages.map ListedPackage.name) := by
    rw [Bool.eq_iff_iff, lists_packageListing, decide_eq_true_eq]
  rw [answer] at found
  refine ⟨found, fun listed => ?_, fun absent => ?_⟩
  · obtain ⟨d, removed⟩ := uninstall_sendable asked [list]
    refine ⟨d, removed, ?_⟩
    rw [decide_eq_true listed] at found
    rw [uninstall, Action.perform_bind, found]
    dsimp only
    rw [if_pos rfl, perform_uninstall_request, listCommand_eq, removed]
    simp [list]
  · rw [decide_eq_false absent] at found
    rw [uninstall, Action.perform_bind, found]
    rfl

end Requests

/-- A host whose device shows a text in answer to shell commands. -/
def hostShowing (text : String) : Host where
  environment := []
  accountHome := none
  files := ⟨[(["adb"], .program)]⟩
  workdir := []
  respond _ call := ⟨.exited 0, if call.args.head? = some "shell" then text else "", ""⟩
  history := []
  clock := 0

/-- Of two packages one is uninstalled, and a third, whose name is part of both names, is not there. -/
theorem uninstalls_iff_listed_similar :
    let longer : ListedPackage := ⟨"org.maps", by decide +kernel⟩
    let package : ListedPackage := ⟨"org.map", by decide +kernel⟩
    let text := packageListing [longer, package] 1
    let adb : Adb := ⟨"/adb", none⟩
    let h := hostShowing text
    adb.reply h ["shell", "pm list packages " ++ "org.map"] = .ok ⟨.exited 0, text, ""⟩ ∧
    adb.reply h ["shell", "pm list packages " ++ "org"] = .ok ⟨.exited 0, text, ""⟩ ∧
    Completion.Prints ⟨.exited 0, text, ""⟩ text ∧
    (uninstall adb "org.map").perform h =
      (.ok (), adb.after h [["shell", "pm list packages " ++ "org.map"], ["uninstall", "org.map"]]) ∧
    (uninstall adb "org").perform h = (.ok (), adb.after h [["shell", "pm list packages " ++ "org"]]) := by
  intro longer package text adb h
  have asked : adb.reply h ["shell", "pm list packages " ++ "org.map"] = .ok ⟨.exited 0, text, ""⟩ := by decide +kernel
  have askedPart : adb.reply h ["shell", "pm list packages " ++ "org"] = .ok ⟨.exited 0, text, ""⟩ := by decide +kernel
  have prints : Completion.Prints ⟨.exited 0, text, ""⟩ text := ⟨by decide +kernel, .inl rfl, by simp⟩
  have there := (uninstalls_iff_listed [longer, package] 1 asked prints).2.1 (by decide)
  have absent := (uninstalls_iff_listed [longer, package] 1 askedPart prints).2.2 (by decide)
  obtain ⟨d, removed, done⟩ := there
  have silent : adb.reply (adb.after h [["shell", "pm list packages " ++ "org.map"]]) ["uninstall", "org.map"] =
      .ok .silent := by decide +kernel
  obtain rfl := Except.ok.inj (removed.symm.trans silent)
  exact ⟨asked, askedPart, prints, done, absent⟩

end DeviceHarness.Install
