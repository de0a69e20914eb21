import DeviceHarness.Proofs.InstallOrder
import DeviceHarness.Proofs.ShellWords
import DeviceHarness.Users

/-! What the shell of the device makes of commands that hold texts of the caller. The owner of a profile is quoted, so it
is one word whatever it is. The names of APKs are not: the commands that take them keep their words exactly if
each character of the name is plain. -/

namespace DeviceHarness

open Shell

namespace Users

theorem setOwnerCommand_eq (component : String) (id : Int) :
    setOwnerCommand component id =
      String.intercalate " " ["dpm", "set-profile-owner", Text.Quoted.quote component, Integer.text id] := by
  unfold setOwnerCommand
  apply String.toList_inj.mp
  simp

theorem words?_setOwnerCommand (component : String) (id : Int) :
    words? (setOwnerCommand component id) = some ["dpm", "set-profile-owner", component, Integer.text id] := by
  rw [setOwnerCommand_eq]
  refine words?_of_spells [("dpm", "dpm"), ("set-profile-owner", "set-profile-owner"),
    (Text.Quoted.quote component, component), (Integer.text id, Integer.text id)] ?_
  simp only [List.forall_mem_cons]
  exact ⟨Reading.spells_literal (by decide), Reading.spells_literal (by decide), Reading.spells_quote component,
    Reading.spells_literal (literal_number id), nofun⟩

end Users

/-- Every text comes out of its quotes as one word that is the text itself. So whatever the component is, the one command
that makes it an owner has the words it was made of. -/
theorem UserManager.owner_words (m : UserManager) (component : String) (id : Int) (h : Host) :
    (∀ s, words? (Text.Quoted.quote s) = some [s]) ∧
      ∃ command, words? command = some ["dpm", "set-profile-owner", component, Integer.text id] ∧
        ((m.setProfileOwner component id).perform h).2 =
          match m.adb.reply h ["shell", command] with
          | .ok _ => m.adb.after h [["shell", command]]
          | .error _ => h := by
  refine ⟨words?_quote, Users.setOwnerCommand component id, Users.words?_setOwnerCommand component id, ?_⟩
  unfold setProfileOwner
  rw [Action.perform_bind, Adb.perform_shellText]
  cases m.adb.reply h ["shell", Users.setOwnerCommand component id] with
  | error e => rfl
  | ok c =>
    dsimp only
    cases c.answer (Users.setOwnerCommand component id) with
    | error e => rfl
    | ok reply =>
      dsimp only
      cases Reply.succeededWithPayload reply <;> rfl

/-- Work that leaves the host with these requests, up to one that fails. -/
def Adb.Sends (adb : Adb) (h : Host) (requests : List (List String)) (left : Host) : Prop :=
  ∃ sent, sent <+: requests ∧ left = adb.after h sent

theorem Adb.Follows.sends {α : Type} {adb : Adb} {h : Host} {steps : List Adb.Step} {outcome : Except Error α × Host}
    {requests : List (List String)} (follows : adb.Follows h steps outcome)
    (worded : steps.map Adb.Step.request = requests.map some) : adb.Sends h requests outcome.2 := by
  obtain ⟨sent, takes, left⟩ := follows
  have starts := takes.sent_prefix
  rw [worded] at starts
  exact ⟨sent, (List.prefix_map_iff_of_injective fun _ _ => Option.some.inj).mp starts, left⟩

namespace Install

open Session (stagedName writeCommand staged_eq writeCommand_staged)

theorem userCommand_staged (user : Int) (name : String) :
    userCommand user (staged name) = "pm install --user " ++ Integer.text user ++ " " ++ ("/data/local/tmp/" ++ name) := by
  unfold userCommand
  rw [staged_eq]

theorem writeCommand_joined (id : Int) (name : String) :
    writeCommand id name =
      String.intercalate " " ["pm", "install-write", Integer.text id, name, "/data/local/tmp/" ++ name] := by
  rw [writeCommand_staged]
  apply String.toList_inj.mp
  simp

theorem userCommand_joined (user : Int) (name : String) :
    userCommand user (staged name) =
      String.intercalate " " ["pm", "install", "--user", Integer.text user, "/data/local/tmp/" ++ name] := by
  rw [userCommand_staged]
  apply String.toList_inj.mp
  simp

/-- A number with an underscore may stand before any name. -/
theorem literal_stagedName (index : Nat) (name : String) :
    Literal (stagedName index name).toList ↔ ∀ c ∈ name.toList, isPlain c = true := by
  have number : Literal ((Integer.text index).toList ++ "_".toList) :=
    (literal_append (literal_number index) _).mpr (List.all_eq_true.mp (by decide))
  rw [stagedName, String.toList_append, String.toList_append]
  exact literal_append number name.toList

theorem literal_staged (name : String) :
    Literal ("/data/local/tmp/" ++ name).toList ↔ ∀ c ∈ name.toList, isPlain c = true := by
  rw [String.toList_append]
  exact literal_append (by decide) name.toList

theorem words?_writeCommand (id : Int) (index : Nat) (name : String) :
    words? (writeCommand id (stagedName index name)) =
        some ["pm", "install-write", Integer.text id, stagedName index name, "/data/local/tmp/" ++ stagedName index name] ↔
      ∀ c ∈ name.toList, isPlain c = true := by
  rw [writeCommand_joined, words?_joined]
  constructor
  · intro each
    exact (literal_stagedName index name).mp (each (stagedName index name) (by simp))
  · intro plain
    have waiting := (literal_stagedName index name).mpr plain
    simp only [List.forall_mem_cons]
    exact ⟨by decide, by decide, literal_number id, waiting, (literal_staged _).mpr waiting.plain, nofun⟩

theorem words?_userCommand (user : Int) (name : String) :
    words? (userCommand user (staged name)) =
        some ["pm", "install", "--user", Integer.text user, "/data/local/tmp/" ++ name] ↔
      ∀ c ∈ name.toList, isPlain c = true := by
  rw [userCommand_joined, words?_joined]
  constructor
  · intro each
    exact (literal_staged name).mp (each ("/data/local/tmp/" ++ name) (by simp))
  · intro plain
    simp only [List.forall_mem_cons]
    exact ⟨by decide, by decide, by decide, literal_number user, (literal_staged name).mpr plain, nofun⟩

theorem forUser_follows {apk name : String} (named : Path.fileName? apk = some name) (adb : Adb) (h : Host) (user : Int) :
    adb.Follows h [⟨some ["push", apk, staged name], fun c => c.succeeded = true⟩,
        .shell (some (userCommand user (staged name))) fun reply => Reply.hasSuccessLine reply = true]
      ((forUser adb apk user).perform h) := by
  unfold forUser apkName
  rw [named]
  refine (Session.pushFile_takes adb h apk (staged name)).bind fun _ left _ => ?_
  refine .shell (fun reply => if Reply.hasSuccessLine reply then .ok () else .error (.assertion ("failed to install " ++
    apk ++ " for user " ++ Integer.text user ++ ": " ++ Text.trim reply))) (fun reply left => ?_) (fun _ reply _ _ => ?_)
  · cases Reply.hasSuccessLine reply <;> rfl
  · cases Reply.hasSuccessLine reply <;> simp [Except.isOk, Except.toBool]

/-- An APK is pushed under its name and installed by commands with that name in them. They have just the words
they were made of exactly if each character of the name is plain. -/
theorem words_kept_iff_plain {apk name : String} (named : Path.fileName? apk = some name) (adb : Adb) (h : Host)
    (id user : Int) (index : Nat) :
    let waiting := Integer.text index ++ "_" ++ name
    let remote := "/data/local/tmp/" ++ waiting
    let write := "pm install-write " ++ Integer.text id ++ " " ++ waiting ++ " " ++ remote
    let single := "/data/local/tmp/" ++ name
    let install := "pm install --user " ++ Integer.text user ++ " " ++ single
    adb.Sends h [["push", apk, remote], ["shell", write]] ((Session.write adb id index apk).perform h).2 ∧
      (words? write = some ["pm", "install-write", Integer.text id, waiting, remote] ↔
        ∀ c ∈ name.toList, isPlain c = true) ∧
      adb.Sends h [["push", apk, single], ["shell", install]] ((forUser adb apk user).perform h).2 ∧
      (words? install = some ["pm", "install", "--user", Integer.text user, single] ↔
        ∀ c ∈ name.toList, isPlain c = true) := by
  intro waiting remote write single install
  have written : writeCommand id (stagedName index name) = write := writeCommand_staged id waiting
  have installed : userCommand user (staged name) = install := userCommand_staged user name
  refine ⟨?_, ?_, ?_, ?_⟩
  · refine (Session.write_follows id index apk).sends ?_
    rw [Session.pushStep_named named, Session.writeStep_named named, written, staged_eq]
    rfl
  · rw [← written]
    exact words?_writeCommand id index name
  · refine (forUser_follows named adb h user).sends ?_
    rw [installed, staged_eq]
    rfl
  · rw [← installed]
    exact words?_userCommand user name

theorem words_kept_iff_plain_base :
    Path.fileName? "/apks/base.apk" = some "base.apk" ∧
      words? "pm install-write 5 0_base.apk /data/local/tmp/0_base.apk" =
        some ["pm", "install-write", "5", "0_base.apk", "/data/local/tmp/0_base.apk"] := by
  have named : Path.fileName? "/apks/base.apk" = some "base.apk" := by decide +kernel
  have kept := (words_kept_iff_plain named ⟨"adb", none⟩ ⟨[], none, ⟨[]⟩, [], fun _ _ => .silent, [], 0⟩ 5 10 0).2.1
  have id : Integer.text 5 = "5" := by decide +kernel
  have index : Integer.text 0 = "0" := by decide +kernel
  refine ⟨named, ?_⟩
  simpa [id, index] using kept.mpr (List.all_eq_true.mp (by decide +kernel))

/-- A blank in the name of an APK ends a word, and a semicolon ends the command. -/
theorem words_of_names :
    Path.fileName? "/apks/my app.apk" = some "my app.apk" ∧
      words? (Session.writeCommand 5 (Session.stagedName 0 "my app.apk")) =
        some ["pm", "install-write", "5", "0_my", "app.apk", "/data/local/tmp/0_my", "app.apk"] ∧
      Path.fileName? "/apks/a;reboot;.apk" = some "a;reboot;.apk" ∧
      words? (userCommand 10 (staged "a;reboot;.apk")) = none := by
  decide +kernel

end Install
end DeviceHarness
