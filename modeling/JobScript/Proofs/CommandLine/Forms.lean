import JobScript.Proofs.CommandLine.Words
import JobScript.Proofs.Config.Load
import JobScript.Proofs.Files.Writing
import JobScript.Proofs.Json.Reading
import JobScript.Proofs.Lifecycle.BuiltIn
import JobScript.Proofs.Shell.Call

/-! # The forms that a script is asked for in

A script goes to standard output, into a report or into a file. Except for the report that leaves a file alone, all
of them succeed and fail together and hand out the same text. -/

namespace JobScript.CommandLine

open Files Log

variable {w : World} {c : Common} {s : Selection} {output : Option String} {json : Bool} {file : String}
  {tree tree' : FileTree} {path : Path}

section Print

end Print

section Deliver

end Deliver

/-- What asking for a script comes to on standard output, as a report, in a file, and as a report with a file named.
The forms on standard output and in a file deliver one text. A report holds it, and also one that cannot be encoded.
A report is printed and nothing else: the file that is named with it stays as it is. -/
structure Agree (w : World) (path : Path) (plain report filed both : Effect) : Prop where
  both_eq : both = report
  report_tree : report.tree = plain.tree
  plain_tree : setting? w "BUILDSCRIPT_LOG_FILE" = none → plain.tree = w.tree
  filed_exitCode : filed.exitCode = plain.exitCode
  report_exitCode : report.exitCode ≠ 0 → report.exitCode = plain.exitCode
  delivered : plain.exitCode = 0 → ∃ text fields, plain.stdout = Text.dropSequences text ∧
    Json.read report.stdout = some (.object fields) ∧ fields.lookup "script" = some (.text text) ∧
      filed.tree.fileAt path = .ok (some ⟨Text.encodeUtf8 text, true⟩)
  undelivered : plain.exitCode ≠ 0 → report.exitCode = 0 → ∃ text fields, Text.isEncodable text = false ∧
    Json.read report.stdout = some (.object fields) ∧ fields.lookup "script" = some (.text (Text.heard text))

section Agree

variable {plain report filed both : Effect}

section Log

variable (setup : Setup) (stamp : Stamp) (records : List Record) (e : Effect)

@[simp] lemma exitCode_addLog : (addLog setup stamp records e).exitCode = e.exitCode := rfl

@[simp] lemma stdout_addLog : (addLog setup stamp records e).stdout = e.stdout := rfl

@[simp] lemma tree_addLog : (addLog setup stamp records e).tree = e.tree := rfl

end Log

/-- The log changes nothing of that. -/
lemma Agree.addLog (h : Agree w path plain report filed both) (setup : Setup) (records : List Record) :
    Agree w path (addLog setup w.stamp records plain) (addLog setup w.stamp records report)
      (addLog setup w.stamp records filed) (addLog setup w.stamp records both) where
  both_eq := congrArg (CommandLine.addLog setup w.stamp records) h.both_eq
  report_tree := by simpa only [tree_addLog] using h.report_tree
  plain_tree := by simpa only [tree_addLog] using h.plain_tree
  filed_exitCode := by simpa only [exitCode_addLog] using h.filed_exitCode
  report_exitCode := by simpa only [exitCode_addLog] using h.report_exitCode
  delivered := by simpa only [exitCode_addLog, stdout_addLog, tree_addLog] using h.delivered
  undelivered := by simpa only [exitCode_addLog, stdout_addLog] using h.undelivered

end Agree

section Run

end Run

section Generic

end Generic

end JobScript.CommandLine
