-- Loading scripts from files. Main statement: a script is loaded by reading its
-- text and parsing it. What goes wrong with either is passed on behind one message
-- of its own, and a check that fails on it says nothing but the messages.
import Verdict.Proofs.CommandLine.Report

namespace Verdict

/-! ## Bytes and texts -/

namespace ReadError

theorem textOfBytes_toUTF8 (text : String) : textOfBytes text.toUTF8 = .ok text := by
  have hvalid : text.toUTF8.IsValidUTF8 := text.isValidUTF8
  have htext : String.fromUTF8? text.toUTF8 = some text := by
    unfold String.fromUTF8?
    rw [dif_pos hvalid]
    rfl
  rw [textOfBytes, htext]

/-- Bytes that are no text's are refused. -/
theorem textOfBytes_of_ne {bytes : ByteArray} (h : ∀ text : String, text.toUTF8 ≠ bytes) :
    textOfBytes bytes = .error .notText := by
  have hvalid : ¬ bytes.IsValidUTF8 := by
    intro hvalid
    exact h (String.fromUTF8 bytes hvalid) rfl
  have hnone : String.fromUTF8? bytes = none := by
    unfold String.fromUTF8?
    rw [dif_neg hvalid]
  rw [textOfBytes, hnone]

end ReadError

/-- Reads texts where the system has bytes, or an error, for each path. -/
def Reader.ofSystem (system : String → Except ReadError ByteArray) : Reader := fun path =>
  match system path with
  | .ok bytes => ReadError.textOfBytes bytes
  | .error cause => .error cause

/-- The bytes at a path. -/
def Files.contents (files : Files) (path : String) : Except ReadError ByteArray :=
  if path.toList.contains '\x00' then .error .nulInPath
  else if path = "" then .error .notFound
  else if 4096 ≤ path.utf8ByteSize then .error .nameTooLong
  else
    files.follow (match path.toList with
      | '/' :: _ => .outside
      | _ => .inside []) (names path)

theorem Files.read_eq (files : Files) : files.read = Reader.ofSystem files.contents := by
  funext path
  unfold read Reader.ofSystem contents
  by_cases hnul : '\x00' ∈ path.toList
  · simp [hnul, bind, Except.bind]
  · by_cases hempty : path = ""
    · simp [hempty, bind, Except.bind]
    · by_cases hlong : 4096 ≤ path.utf8ByteSize
      · simp [hnul, hempty, hlong, bind, Except.bind]
      · simp only [List.contains_eq_mem, hnul, hempty, hlong, decide_false, if_false,
          Bool.false_eq_true]
        change Except.bind (files.follow _ (names path)) ReadError.textOfBytes = _
        cases files.follow (match path.toList with
            | '/' :: _ => Place.outside
            | _ => .inside []) (names path) with
        | ok bytes => rfl
        | error cause => rfl

namespace Script

/-! ## Loading -/

theorem load_of_unread {read : Reader} {path : String} {cause : ReadError}
    (h : read path = .error cause) : load read path = .error (.unreadable path cause) := by
  rw [load, h]

theorem load_of_unparsed {read : Reader} {path text : String} (h : read path = .ok text)
    {cause : ParseError} (hparse : parse text = .error cause) :
    load read path = .error (.unparsable path cause) := by
  unfold load
  simp only [h, hparse]

theorem LoadError.two_le_length_chain (e : LoadError) : 2 ≤ e.chain.length := by
  cases e with
  | unreadable path cause => simp [chain]
  | unparsable path cause => simp [chain, ParseError.chain]

end Script

namespace CommandLine

theorem run_check_of_error {read : Reader} {arguments : List String} {path : String} {quiet : Bool}
    (hparse : parse arguments = .ok (.check path quiet)) {e : Script.LoadError}
    (hload : Script.load read path = .error e) :
    run read arguments = ⟨1, "", errorReport "Failed to load script file" e.chain⟩ := by
  rw [run, hparse]
  simp only [Command.run, runCheck, hload]

theorem err_run_check_of_ok {read : Reader} {arguments : List String} {path : String} {quiet : Bool}
    (hparse : parse arguments = .ok (.check path quiet)) {script : Script}
    (hload : Script.load read path = .ok script) : (run read arguments).err = "" := by
  rw [run, hparse]
  simp only [Command.run, runCheck, hload]

end CommandLine

namespace Script

/-- Where the system has an error for a path, or bytes that are no text's, loading
fails with one message of its own and the reason behind it. Where it has the bytes of
a text, loading gives what parsing the text gives: the same scripts, and the messages
of the same error behind one of its own. A check of that path that fails to load it
ends with code 1, prints nothing, and reports one more message and those of the
error behind it, each once and in order; one that loads it reports nothing. Files are
read like that. -/
theorem loading_is_reading_then_parsing (system : String → Except ReadError ByteArray)
    (path : String) :
    let read := Reader.ofSystem system
    (∀ cause, system path = .error cause → ∃ e, load read path = .error e ∧
      e.chain = ["Failed to read script file: " ++ Text.quoted path, cause.message]) ∧
    (∀ bytes, system path = .ok bytes → (∀ text : String, text.toUTF8 ≠ bytes) →
      ∃ e, load read path = .error e ∧
        e.chain = ["Failed to read script file: " ++ Text.quoted path,
          "stream did not contain valid UTF-8"]) ∧
    (∀ text : String, system path = .ok text.toUTF8 →
      (∀ script, load read path = .ok script ↔ parse text = .ok script) ∧
      ∀ cause, parse text = .error cause → ∃ e, load read path = .error e ∧
        e.chain = ("Failed to parse script file: " ++ Text.quoted path) :: cause.chain ∧
        cause.chain.head? = some "Failed to parse YAML") ∧
    (∀ arguments quiet, CommandLine.parse arguments = .ok (.check path quiet) →
      (∀ e, load read path = .error e →
        let result := CommandLine.run read arguments
        result.code = 1 ∧ result.out = "" ∧
        CommandLine.reported result.err = "Failed to load script file" :: e.chain) ∧
      ∀ script, load read path = .ok script → (CommandLine.run read arguments).err = "") ∧
    ∀ files : Files, files.read = Reader.ofSystem files.contents := by
  intro read
  refine ⟨?_, ?_, ?_, ?_, Files.read_eq⟩
  · intro cause hsystem
    have hread : read path = .error cause := by simp only [read, Reader.ofSystem, hsystem]
    exact ⟨_, load_of_unread hread, rfl⟩
  · intro bytes hsystem hbytes
    have hread : read path = .error .notText := by
      simp only [read, Reader.ofSystem, hsystem, ReadError.textOfBytes_of_ne hbytes]
    exact ⟨_, load_of_unread hread, rfl⟩
  · intro text hsystem
    have hread : read path = .ok text := by
      simp only [read, Reader.ofSystem, hsystem, ReadError.textOfBytes_toUTF8]
    refine ⟨fun script => ?_, fun cause hparse => ⟨_, load_of_unparsed hread hparse, rfl, rfl⟩⟩
    rw [load_eq_ok_iff, hread]
    simp
  · intro arguments quiet hparse
    refine ⟨fun e hload => ?_, fun script => CommandLine.err_run_check_of_ok hparse⟩
    rw [CommandLine.run_check_of_error hparse hload]
    have hmessage : '\n' ∉ "Failed to load script file".toList := by decide
    exact ⟨rfl, rfl, CommandLine.reported_errorReport hmessage e.two_le_length_chain⟩

/-- A file that is no text, and a directory. -/
example :
    let files := Files.ofList [("s.yaml", .file ⟨#[0x6e, 0xff]⟩), ("d", .directory)]
    (CommandLine.run files.read ["check", "s.yaml"]).err =
      "Error: Failed to load script file\n\nCaused by:\n" ++
        "    0: Failed to read script file: \"s.yaml\"\n" ++
        "    1: stream did not contain valid UTF-8\n" ∧
    CommandLine.reported (CommandLine.run files.read ["check", "d"]).err =
      ["Failed to load script file", "Failed to read script file: \"d\"",
        "Is a directory (os error 21)"] := by
  decide +kernel

end Script

end Verdict
