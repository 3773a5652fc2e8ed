/-
The repair of the server's own code.

The repair reads one file, puts the new line everywhere in the place of the old
one, and writes the file back (`run_repairMessages`). The two lines share no
seam (`seamless_lines`), so whatever surrounds the old line the new one does not
bring it back, and a second repair finds nothing to replace.
-/
import SourceAudit.Proofs.FileTree.Writing
import SourceAudit.Proofs.Text.Encoding
import SourceAudit.Proofs.Text.Replacing
import SourceAudit.Script.Upkeep

namespace SourceAudit

-- =============================================================== steps

namespace Script

variable {α β : Type} {o : Outside} {s s' : Shell}

/-- After a step that succeeds the next one goes on from where it leads. -/
theorem runIn_bind {p : Script α} {a : α} (h : p.runIn o s = (.ok a, s'))
    (next : α → Script β) : (p >>= next).runIn o s = (next a).runIn o s' := by
  unfold runIn at h ⊢
  rw [ReaderT.run_bind, ExceptT.run_bind, StateT.run_bind, h]
  rfl

theorem runIn_get (o : Outside) (s : Shell) : (get : Script Shell).runIn o s
    = (.ok s, s) := rfl

theorem runIn_readText {path text : String}
    (h : s.tree.readText path = .ok text) :
    (readText path).runIn o s = (.ok text, s) := by
  unfold readText
  rw [runIn_bind (runIn_get o s), h]
  rfl

theorem runIn_writeText {path text : String} {tree : FileTree}
    (h : s.tree.write path (Text.encode text) = .ok tree) :
    (writeText path text).runIn o s = (.ok (), { s with tree := tree }) := by
  unfold writeText
  rw [runIn_bind (runIn_get o s), h]
  rfl

/-- Printing changes what has been said and nothing else. -/
theorem runIn_sayAll (lines : List String) (s : Shell) :
    ∃ said, (sayAll lines).runIn o s = (.ok (), { s with said := said }) := by
  unfold sayAll
  induction lines generalizing s with
  | nil => exact ⟨s.said, rfl⟩
  | cons line rest ih =>
      exact ih { s with said := .text (line ++ "\n") :: s.said }

end Script

-- ============================================================== repair

namespace Upkeep

open Script

variable {s : Shell} {text : String}

/-- The lines agree up to the end of the first quoted name, yet neither begins
where the other ends. -/
theorem seamless_lines : Text.Seamless oldLine.toList newLine.toList := by
  decide +kernel

/-- A repair writes the file back with the old line replaced. -/
theorem run_repairMessages
    (h : s.tree.readText "vibeauditor/main.py" = .ok text) {tree : FileTree}
    (hwrite : s.tree.write "vibeauditor/main.py"
      (Text.encode (Text.replace oldLine newLine text)) = .ok tree)
    (o : Outside) :
    ∃ s' : Shell, repairMessages.runIn o s = (.ok (), s') ∧ s'.tree = tree := by
  obtain ⟨said, hsaid⟩ := runIn_sayAll (o := o)
    ["✅ Fixed message field in main.py", "🔧 Changed:", "   OLD: " ++ oldLine,
      "   NEW: " ++ newLine,
      "\n🚀 Restart the server to apply the fix"] { s with tree := tree }
  refine ⟨{ s with tree := tree, said := said }, ?_, rfl⟩
  unfold repairMessages
  rw [runIn_bind (runIn_readText h), runIn_bind (runIn_writeText hwrite), hsaid]

/-- The repaired text can be read back as it was written. -/
theorem decode_repaired (h : '\r' ∉ text.toList) :
    Text.decode (Text.encode (Text.replace oldLine newLine text))
      = .ok (Text.replace oldLine newLine text) := by
  refine Text.decode_encode fun hmem => ?_
  rw [Text.replace, String.toList_ofList] at hmem
  rcases Text.mem_of_mem_replaceFrom hmem with hdone | hnew | htext
  · cases hdone
  · exact absurd hnew (by decide +kernel)
  · exact h htext

/-- A repair of a file that can be read leaves no old line in it, and a second
repair changes nothing. What stands between the old lines is kept as it is and
in order, with a new line in the place of each old one. -/
theorem repair_complete_and_settled
    (h : s.tree.readText "vibeauditor/main.py" = .ok text) (o o' : Outside) :
    ∃ (s' : Shell) (repaired : String),
      repairMessages.runIn o s = (.ok (), s') ∧
      s'.tree.readText "vibeauditor/main.py" = .ok repaired ∧
      Text.contains oldLine repaired = false ∧
      (∃ s'' : Shell, repairMessages.runIn o' s' = (.ok (), s'') ∧
        s''.tree = s'.tree) ∧
      ∃ pieces : List String,
        text = oldLine.intercalate pieces ∧
        repaired = newLine.intercalate pieces ∧
        ∀ p ∈ pieces, Text.contains oldLine p = false := by
  obtain ⟨bytes, hread, hdecode⟩ := FileTree.readText_eq_ok_iff.1 h
  have hplace : s.tree.placeOf "vibeauditor/main.py"
      = s.tree.home ++ ["vibeauditor"] ++ ["main.py"] := rfl
  have hhome : s.tree.home <+: s.tree.placeOf "vibeauditor/main.py" := by
    rw [hplace, List.append_assoc]
    exact List.prefix_append _ _
  obtain ⟨tree, hwrite, hreadBack, hagain⟩ := FileTree.write_of_read hhome hread
    (Text.encode (Text.replace oldLine newLine text))
  have hgone := Text.not_contains_replace seamless_lines text
  obtain ⟨s', hrun, htree⟩ := run_repairMessages h hwrite o
  have hrepaired : s'.tree.readText "vibeauditor/main.py"
      = .ok (Text.replace oldLine newLine text) := by
    rw [htree]
    exact FileTree.readText_eq_ok_iff.2
      ⟨_, hreadBack, decode_repaired (Text.decode_noReturn hdecode)⟩
  have hsame : s'.tree.write "vibeauditor/main.py" (Text.encode
      (Text.replace oldLine newLine (Text.replace oldLine newLine text)))
        = .ok tree := by
    rw [Text.replace_of_not_contains hgone, htree]
    exact hagain
  obtain ⟨s'', hrun', htree'⟩ := run_repairMessages hrepaired hsame o'
  refine ⟨s', _, hrun, hrepaired, hgone, ⟨s'', hrun', htree'.trans htree.symm⟩,
    Text.splitBy oldLine text,
    (Text.intercalate_splitBy seamless_lines.ne_nil text).symm,
    Text.replace_eq_intercalate oldLine newLine text, fun p hp =>
      Text.not_contains_of_mem_splitBy seamless_lines.ne_nil hp⟩

/-- A folder with a file that has the old line twice, the second time right
after the first. -/
def unrepaired : FileTree :=
  FileTree.empty.withFile "vibeauditor/main.py"
    (Text.encode ("x" ++ oldLine ++ oldLine))

theorem repair_complete_and_settled_twice :
    (Shell.start unrepaired [] []).tree.readText "vibeauditor/main.py"
        = .ok ("x" ++ oldLine ++ oldLine) ∧
      ∀ o o' : Outside, ∃ (s' : Shell) (repaired : String),
        repairMessages.runIn o (.start unrepaired [] []) = (.ok (), s') ∧
        s'.tree.readText "vibeauditor/main.py" = .ok repaired ∧
        Text.contains oldLine repaired = false ∧
        (∃ s'' : Shell, repairMessages.runIn o' s' = (.ok (), s'') ∧
          s''.tree = s'.tree) ∧
        ∃ pieces :
        List String, "x" ++ oldLine ++ oldLine = oldLine.intercalate pieces ∧
          repaired = newLine.intercalate pieces ∧
          ∀ p ∈ pieces, Text.contains oldLine p = false := by
  have hread :
    (Shell.start unrepaired [] []).tree.readText "vibeauditor/main.py"
      = .ok ("x" ++ oldLine ++ oldLine) := by
    refine FileTree.readText_eq_ok_iff.2 ⟨_, rfl,
      Text.decode_encode (by decide +kernel)⟩
  exact ⟨hread, fun o o' => repair_complete_and_settled hread o o'⟩

end Upkeep

end SourceAudit
