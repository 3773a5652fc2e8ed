/-
A value written as indented JSON text is read back, with its fields in their
order.

`Spells cs v` says that a text is read as a value wherever it stands: whatever
lies before it, and whatever follows that cannot belong to it. Words, numbers
and strings spell their values; brackets around texts that spell items, or
fields, spell a list, or a record. The indented text of a value then spells it
by induction on the value.
-/
import Mathlib.Algebra.Group.Int.Defs
import Mathlib.Data.List.Forall2
import SourceAudit.Finding.Basic
import SourceAudit.Proofs.Value.Json.Numbers
import SourceAudit.Proofs.Value.Json.Strings

namespace SourceAudit

/-- The values that JSON can hold: no dates, no field twice in a record, of the
whole numbers those that keep to a limit of digits, if there is one, and of the
numbers with a fraction those that their text spells. -/
inductive Value.IsJson (limit : Option Nat) : Value → Prop where
  | null : IsJson limit .null
  | bool (b : Bool) : IsJson limit (.bool b)
  | int (n : Int) (h : ∀ most ∈ limit,
      (Nat.toDigits 10 n.natAbs).length ≤ most) :
      IsJson limit (.int n)
  | real {x : Float} (h : Json.read (Number.inJson.text x) = .ok (.real x)) :
      IsJson limit (.real x)
  | text (s : String) : IsJson limit (.text s)
  | list {items : List Value} (h : ∀ x ∈ items, IsJson limit x) :
      IsJson limit (.list items)
  | record {fields : List (String × Value)}
      (hkeys : (fields.map Prod.fst).Nodup)
      (h : ∀ f ∈ fields, IsJson limit f.2) : IsJson limit (.record fields)

namespace Value

variable {limit : Option Nat}

/-- Without a limit there are whole numbers of any size. -/
theorem isJson_int (n : Int) : (int n).IsJson none :=
  .int n nofun

theorem isJson_list_iff {items : List Value} :
    (list items).IsJson limit ↔ ∀ x ∈ items, x.IsJson limit := by
  refine ⟨fun h => ?_, .list⟩
  cases h with
  | list hitems => exact hitems

theorem isJson_record_iff {fields : List (String × Value)} :
    (record fields).IsJson limit ↔
      (fields.map Prod.fst).Nodup ∧ ∀ f ∈ fields, f.2.IsJson limit := by
  refine ⟨fun h => ?_, fun h => .record h.1 h.2⟩
  cases h with
  | record hkeys hfields => exact ⟨hkeys, hfields⟩

/-- A new field comes last. -/
theorem put_of_notMem {name : String} {fields : List (String × Value)}
    (h : name ∉ fields.map Prod.fst) (v : Value) :
    put name v fields = fields ++ [(name, v)] := by
  induction fields with
  | nil => rfl
  | cons f fields ih =>
      obtain ⟨key, old⟩ := f
      rw [List.map_cons, List.mem_cons, not_or] at h
      rw [put, if_neg (by simpa using Ne.symm h.1), ih h.2]
      rfl

namespace Json

-- ============================================================== blanks

/-- Blanks between the parts of a text. -/
def Blank (gap : List Char) : Prop := ∀ c ∈ gap, isSpace c = true

theorem skipSpace_blank {gap : List Char} (hgap : Blank gap) {c : Char}
    (hc : isSpace c = false) (more : List Char) (position : Nat) :
    Rest.skipSpace ⟨gap ++ c :: more, position⟩
      = ⟨c :: more, position + gap.length⟩ := by
  unfold Rest.skipSpace
  induction gap generalizing position with
  | nil => simp [skipSpaceFrom, hc]
  | cons b gap ih =>
      have hb : isSpace b = true := hgap b List.mem_cons_self
      have hmore :=
        ih (fun c hc => hgap c (List.mem_cons_of_mem b hc)) (position + 1)
      simp only [List.cons_append, skipSpaceFrom, hb, if_true,
        List.length_cons] at hmore ⊢
      rw [hmore, Nat.add_right_comm, Nat.add_assoc]

theorem ended_blank {gap : List Char} (hgap : Blank gap) {c : Char}
    (hc : closes c = true) (more : List Char) : Ended (gap ++ c :: more) := by
  intro b hb
  cases gap with
  | nil =>
      obtain rfl := Option.some.inj hb
      exact hc
  | cons g gap =>
      obtain rfl := Option.some.inj hb
      simp [closes, hgap g List.mem_cons_self]

theorem blank_newline (step level : Nat) :
    Blank (newline step level).toList := by
  intro c hc
  have hspaces : c = '\n' ∨ c ∈ List.replicate (step * level) ' ' := by
    simpa [newline] using hc
  rcases hspaces with rfl | hc
  · decide
  · rw [List.eq_of_mem_replicate hc]
    decide

-- =============================================================== texts

/-- A text that is read as a value wherever it stands. -/
structure Spells (limit : Option Nat) (cs : List Char) (v : Value) : Prop where
  /-- It begins with no blank, closes no list and marks no byte order. -/
  start : ∃ c more, cs = c :: more ∧ isSpace c = false ∧ c ≠ ']' ∧ c ≠ '﻿'
  /-- Each character pays for two steps. -/
  reads : ∀ fuel position rest, 2 * cs.length ≤ fuel → Ended rest →
    ∃ after, readValue limit fuel ⟨cs ++ rest, position⟩
      = .ok (v, ⟨rest, after⟩)

/-- A text of a field: its name as a string, a colon and a text of its value. -/
def SpellsField (limit : Option Nat) (cs : List Char)
    (f : String × Value) : Prop :=
  ∃ inner, cs = (string f.1).toList ++ ':' :: ' ' :: inner ∧
    Spells limit inner f.2

/-- A string begins with its quote. -/
theorem head_string (s : String) : ∃ inside, (string s).toList
    = '"' :: inside := by
  obtain ⟨inside, -, h, -⟩ := readString_string s 0 []
  exact ⟨inside, by rw [← h, List.append_nil]⟩

/-- A text of several parts begins with the first. -/
theorem intercalate_eq_append (sep first : List Char)
    (later : List (List Char)) :
    ∃ more, sep.intercalate (first :: later) = first ++ more := by
  cases later with
  | nil => exact ⟨[], by rw [List.intercalate_singleton, List.append_nil]⟩
  | cons next later =>
      exact ⟨_, by rw [List.intercalate_cons_cons, List.append_assoc]⟩

-- ============================================================= scalars

/-- A word or a number that is read whole spells its value, if it keeps to the
limit. -/
theorem spells_plain {cs : List Char} {v : Value} {position : Nat}
    {after : Rest} (hread : readPlain ⟨cs, position⟩ = .ok (v, after))
    (hall : after.chars = [])
    (hshort : ∀ n most, v = .int n → limit = some most →
      cs.length - (if cs.head? == some '-' then 1 else 0)
        ≤ most) : Spells limit cs v := by
  obtain ⟨c, more, hcs, hc⟩ := head_of_readPlain hread
  obtain ⟨hspace, -, -, hclose, -, hmark⟩ := ne_of_isNumeral hc
  dsimp only at hcs
  refine ⟨⟨c, more, hcs, hspace, hclose, hmark⟩,
    fun fuel start rest hfuel hrest => ?_⟩
  have hplace := readPlain_append hread hall hrest start
  rw [hcs, List.length_cons] at hfuel
  obtain ⟨fuel, rfl⟩ : ∃ n, fuel = n + 1 := Nat.exists_eq_add_one.2 (by omega)
  rw [hcs] at hplace hshort ⊢
  refine ⟨_, (readValue_numeral limit hc fuel start (more ++ rest)).trans
    (readWithin_eq hplace fun n most hn hmost => ?_)⟩
  rw [Nat.add_sub_cancel_left]
  exact hshort n most hn hmost

theorem spells_string (s : String) :
    Spells limit (string s).toList (.text s) where
  start := by
    obtain ⟨inside, hquote⟩ := head_string s
    exact ⟨'"', inside, hquote, by decide, by decide, by decide⟩
  reads fuel position rest hfuel _ := by
    obtain ⟨inside, after, htext, hread⟩ :=
      readString_string s (position + 1) rest
    obtain ⟨fuel, rfl⟩ : ∃ n, fuel = n + 1 := by
      obtain ⟨inside, hquote⟩ := head_string s
      rw [hquote, List.length_cons] at hfuel
      exact Nat.exists_eq_add_one.2 (by omega)
    refine ⟨after, ?_⟩
    rw [htext, readValue]
    simp only [Rest.drop, List.drop_succ_cons, List.drop_zero, hread]
    rfl

-- ============================================================ brackets

theorem ended_comma (more : List Char) : Ended (',' :: more) := by
  rintro c ⟨⟩
  decide

/-- The characters of parts between brackets. -/
theorem toList_bracketed (step level : Nat) (opening closing : String)
    {parts : List String} (h : parts ≠ []) :
    (bracketed step level opening closing parts).toList
      = opening.toList ++ ((newline step (level + 1)).toList
        ++ ((',' :: (newline step (level + 1)).toList).intercalate
          (parts.map String.toList) ++
            ((newline step level).toList ++ closing.toList))) := by
  rw [bracketed, if_neg (by simpa using h)]
  simp only [String.toList_append, String.toList_intercalate, List.append_assoc]
  rfl

/-- How parts between brackets are read: a loop takes them one after another,
each up to a comma or the closing bracket. `start` is what it begins with, `add`
enters a part, and `result` is the value in the end. -/
structure ReadsBrackets {α σ : Type} (limit : Option Nat)
    (opening closing : Char)
    (reader : Nat → σ → Rest → Except Misread (Value × Rest)) (start : σ)
    (add : σ → α → σ) (result : σ → Value) (Part : List Char → α → Prop) :
    Prop where
  bracket : isSpace opening = false ∧ opening ≠ ']' ∧ opening ≠ '﻿'
  part : ∀ {cs x}, Part cs x → ∃ c more, cs = c :: more ∧ isSpace c = false ∧
    c ≠ closing
  empty : ∀ fuel position rest, ∃ after,
    readValue limit (fuel + 1) ⟨opening :: closing :: rest, position⟩
      = .ok (result start, ⟨rest, after⟩)
  first : ∀ fuel position more {c tail place}, c ≠ closing →
    Rest.skipSpace ⟨more, position + 1⟩ = ⟨c :: tail, place⟩ →
    readValue limit (fuel + 1) ⟨opening :: more, position⟩
      = reader fuel start ⟨c :: tail, place⟩
  comma : ∀ {cs x}, Part cs x → ∀ fuel, 2 * cs.length ≤ fuel →
    ∀ done position more,
    ∃ place, reader (fuel + 1) done ⟨cs ++ ',' :: more, position⟩
      = reader fuel (add done x) (Rest.skipSpace ⟨more, place⟩)
  last : ∀ {cs x}, Part cs x → ∀ fuel, 2 * cs.length ≤ fuel → ∀ {gap},
    Blank gap →
    ∀ done position rest,
    ∃ after, reader (fuel + 1) done ⟨cs ++ (gap ++ closing :: rest), position⟩
      = .ok (result (add done x), ⟨rest, after⟩)

namespace ReadsBrackets

variable {α σ : Type} {opening closing : Char}
  {reader : Nat → σ → Rest → Except Misread (Value × Rest)} {start : σ}
  {add : σ → α → σ}
  {result : σ → Value} {Part : List Char → α → Prop}

/-- Blanks before a text of several parts end where the first part begins. -/
theorem skipSpace
    (h : ReadsBrackets limit opening closing reader start add result Part)
    {first : List Char} {x : α} (hx : Part first x) (sep : List Char)
    (later : List (List Char)) (more : List Char) {gap : List Char}
    (hgap : Blank gap) (position : Nat) :
    ∃ c tail, c ≠ closing ∧
      sep.intercalate (first :: later) ++ more = c :: tail ∧
      Rest.skipSpace
          ⟨gap ++ (sep.intercalate (first :: later) ++ more), position⟩
        = ⟨c :: tail, position + gap.length⟩ := by
  obtain ⟨c, inner, rfl, hc, hclosing⟩ := h.part hx
  obtain ⟨after, hafter⟩ := intercalate_eq_append sep (c :: inner) later
  rw [hafter]
  exact ⟨c, inner ++ after ++ more, hclosing, rfl,
    skipSpace_blank hgap hc _ position⟩

/-- All parts are read, in their order. -/
theorem intercalate
    (h : ReadsBrackets limit opening closing reader start add result Part)
    {gap last : List Char} (hgap : Blank gap) (hlast : Blank last)
    {texts : List (List Char)} {parts : List α}
    (hparts : List.Forall₂ Part texts parts) (hne : texts ≠ [])
    (rest : List Char) (fuel : Nat)
    (hfuel : 2 * ((',' :: gap).intercalate texts).length < fuel) (done : σ)
    (position : Nat) :
    ∃ after, reader fuel done
        ⟨(',' :: gap).intercalate texts ++ (last ++ closing :: rest), position⟩
      = .ok (result (parts.foldl add done), ⟨rest, after⟩) := by
  induction hparts generalizing fuel done position with
  | nil => exact absurd rfl hne
  | @cons cs x texts parts hx hparts ih =>
      obtain ⟨fuel, rfl⟩ : ∃ n, fuel = n + 1 :=
        Nat.exists_eq_add_one.2 (by omega)
      cases hparts with
      | nil =>
          rw [List.intercalate_singleton] at hfuel ⊢
          exact h.last hx fuel (by omega) hlast done position rest
      | @cons next y texts parts hy hparts =>
          rw [List.intercalate_cons_cons] at hfuel ⊢
          simp only [List.length_append, List.length_cons] at hfuel
          obtain ⟨place, hstep⟩ := h.comma hx fuel (by omega) done position
            (gap ++
              ((',' :: gap).intercalate (next :: texts) ++
                (last ++ closing :: rest)))
          obtain ⟨after, hafter⟩ := ih (List.cons_ne_nil _ _) fuel (by omega)
            (add done x) (place + gap.length)
          obtain ⟨c, tail, -, htail, hskip⟩ := h.skipSpace hy (',' :: gap) texts
            (last ++ closing :: rest) hgap place
          refine ⟨after, ?_⟩
          rw [List.append_assoc, List.append_assoc, List.cons_append, hstep,
            hskip, ← htail, hafter]
          rfl

/-- Parts between brackets, one a line, spell the value that is made of them. -/
theorem spells
    (h : ReadsBrackets limit opening closing reader start add result Part)
    (step level : Nat) {before after : String}
    (hbefore : before.toList = [opening]) (hafter : after.toList = [closing])
    {texts : List String} {parts : List α}
    (hparts : List.Forall₂ (fun text x => Part text.toList x) texts parts) :
    Spells limit (bracketed step level before after texts).toList
      (result (parts.foldl add start)) := by
  obtain ⟨hspace, hclose, hmark⟩ := h.bracket
  cases hparts with
  | nil =>
      have htext : (bracketed step level before after []).toList
          = [opening, closing] := by
        rw [bracketed, if_pos List.isEmpty_nil, String.toList_append,
          hbefore, hafter]
        rfl
      rw [htext]
      refine ⟨⟨opening, _, rfl, hspace, hclose, hmark⟩,
        fun fuel position rest hfuel _ => ?_⟩
      obtain ⟨fuel, rfl⟩ : ∃ n, fuel = n + 1 :=
        Nat.exists_eq_add_one.2
          (by simp only [List.length_cons] at hfuel; omega)
      exact h.empty fuel position rest
  | @cons text x texts parts hx hparts =>
      rw [toList_bracketed step level before after
        (List.cons_ne_nil text texts), hbefore, hafter]
      refine ⟨⟨opening, _, rfl, hspace, hclose, hmark⟩,
        fun fuel position rest hfuel _ => ?_⟩
      simp only [List.length_append, List.length_cons, List.length_nil] at hfuel
      obtain ⟨fuel, rfl⟩ : ∃ n, fuel = n + 1 :=
        Nat.exists_eq_add_one.2 (by omega)
      have hgap := blank_newline step (level + 1)
      obtain ⟨c, tail, hc, htail, hskip⟩ := h.skipSpace hx
        (',' :: (newline step (level + 1)).toList) (texts.map String.toList)
        ((newline step level).toList ++ closing :: rest) hgap (position + 1)
      obtain ⟨place, hplace⟩ := h.intercalate hgap (blank_newline step level)
        (List.forall₂_map_left_iff.2 (.cons hx hparts)) (by simp) rest fuel
        (by rw [List.map_cons] at hfuel ⊢; omega) start
        (position + 1 + (newline step (level + 1)).toList.length)
      refine ⟨place, ?_⟩
      simp only [List.append_assoc, List.cons_append, List.nil_append,
        List.map_cons]
      rw [h.first fuel position _ hc hskip, ← htail]
      exact hplace

end ReadsBrackets

/-- A list is read item by item. -/
theorem readsBrackets_items :
    ReadsBrackets limit '[' ']' (readItems limit) [] (fun done v => v :: done)
      (fun done => .list done.reverse) (Spells limit) where
  bracket := by decide
  part h := by
    obtain ⟨c, more, hcs, hspace, hclose, -⟩ := h.start
    exact ⟨c, more, hcs, hspace, hclose⟩
  empty _ position rest := ⟨position + 1 + 1, by rw [readValue]; rfl⟩
  first := by
    intro fuel position more c tail place hc hskip
    rw [readValue]
    simp only [Rest.drop, List.drop_succ_cons, List.drop_zero, hskip]
    split
    · rename_i heq
      exact absurd (List.cons.inj heq).1 hc
    · rfl
  comma := by
    intro cs v h fuel hfuel done position more
    obtain ⟨place, hplace⟩ :=
      h.reads fuel position (',' :: more) hfuel (ended_comma more)
    refine ⟨place + 1, ?_⟩
    rw [readItems, hplace]
    rfl
  last := by
    intro cs v h fuel hfuel gap hgap done position rest
    have hended : Ended (gap ++ ']' :: rest) :=
      ended_blank hgap (by decide) rest
    obtain ⟨place, hplace⟩ :=
      h.reads fuel position (gap ++ ']' :: rest) hfuel hended
    refine ⟨place + gap.length + 1, ?_⟩
    rw [readItems, hplace]
    simp only [skipSpace_blank hgap (c := ']') (by decide)]
    rfl

/-- What follows a field: the end of its record or the next field. -/
def afterField (limit : Option Nat) (fuel : Nat)
    (fields : List (String × Value)) (after : Rest) :
    Except Misread (Value × Rest) :=
  match after.chars with
  | '\x7d' :: _ => .ok (.record fields, after.drop 1)
  | ',' :: _ => readFields limit fuel fields (after.drop 1).skipSpace
  | _ => .error ⟨.expectedComma, after.position⟩

/-- A field is read up to what follows its value. -/
theorem readFields_field {cs : List Char} {f : String × Value}
    (h : SpellsField limit cs f) {fuel : Nat} (hfuel : 2 * cs.length ≤ fuel)
    (done : List (String × Value)) (position : Nat) {more : List Char}
    (hmore : Ended more) :
    ∃ place, readFields limit (fuel + 1) done ⟨cs ++ more, position⟩
      = afterField limit fuel (put f.1 f.2 done)
        (Rest.skipSpace ⟨more, place⟩) := by
  obtain ⟨inner, rfl, hinner⟩ := h
  obtain ⟨c, tail, rfl, hc, -⟩ := hinner.start
  obtain ⟨inside, after, htext, hread⟩ :=
    readString_string f.1 (position + 1) (':' :: ' ' :: (c :: tail ++ more))
  simp only [List.length_append, List.length_cons] at hfuel
  obtain ⟨place, hplace⟩ :=
    hinner.reads fuel (after + 1 + 1) more (by simp; omega) hmore
  have hcolon : Rest.skipSpace ⟨':' :: ' ' :: (c :: tail ++ more), after⟩
      = ⟨':' :: ' ' :: (c :: tail ++ more), after⟩ := rfl
  have hblank : Blank [' '] := by simp [Blank, isSpace]
  have hskip : Rest.skipSpace ⟨' ' :: (c :: tail ++ more), after + 1⟩
      = ⟨c :: tail ++ more, after + 1 + 1⟩ :=
    skipSpace_blank hblank hc (tail ++ more) (after + 1)
  refine ⟨place, ?_⟩
  rw [List.append_assoc, List.cons_append, List.cons_append, htext, readFields]
  simp only [Rest.drop, List.drop_succ_cons, List.drop_zero, hread, hcolon,
    hskip, hplace]
  rfl

/-- A record is read field by field. -/
theorem readsBrackets_fields :
    ReadsBrackets limit '\x7b' '\x7d' (readFields limit) []
      (fun done f => put f.1 f.2 done)
      .record (SpellsField limit) where
  bracket := by decide
  part h := by
    obtain ⟨inner, rfl, -⟩ := h
    obtain ⟨inside, hquote⟩ := head_string _
    exact ⟨'"', _, by rw [hquote]; rfl, by decide, by decide⟩
  empty _ position rest := ⟨position + 1 + 1, by rw [readValue]; rfl⟩
  first := by
    intro fuel position more c tail place hc hskip
    rw [readValue]
    simp only [Rest.drop, List.drop_succ_cons, List.drop_zero, hskip]
    split
    · rename_i heq
      exact absurd (List.cons.inj heq).1 hc
    · rfl
  comma := by
    intro cs f h fuel hfuel done position more
    obtain ⟨place, hstep⟩ :=
      readFields_field h hfuel done position (ended_comma more)
    exact ⟨place + 1, hstep⟩
  last := by
    intro cs f h fuel hfuel gap hgap done position rest
    obtain ⟨place, hstep⟩ := readFields_field h hfuel done position
      (ended_blank (c := '\x7d') hgap (by decide) rest)
    refine ⟨place + gap.length + 1, ?_⟩
    rw [hstep, skipSpace_blank hgap (c := '\x7d') (by decide)]
    rfl

-- ============================================================== values

theorem indentedItems_eq_map (step level : Nat) (items : List Value) :
    indentedItems step level items = items.map (indentedAt step level) := by
  induction items with
  | nil => rfl
  | cons x items ih => rw [indentedItems, ih, List.map_cons]

theorem indentedFields_eq_map (step level : Nat)
    (fields : List (String × Value)) :
    indentedFields step level fields
      = fields.map fun f => string f.1 ++ ": " ++
        indentedAt step level f.2 := by
  induction fields with
  | nil => rfl
  | cons f fields ih => rw [indentedFields, ih, List.map_cons]

/-- Fields under names of their own are kept as they come. -/
theorem putAll_of_nodup {done fields : List (String × Value)}
    (h : ((done ++ fields).map Prod.fst).Nodup) :
    putAll done fields = done ++ fields := by
  induction fields generalizing done with
  | nil => rw [List.append_nil]; rfl
  | cons f fields ih =>
      have hnew : f.1 ∉ done.map Prod.fst := by
        rw [List.map_append, List.nodup_append] at h
        exact fun hmem => h.2.2 _ hmem _ (by simp) rfl
      have happend : done ++ f :: fields = done ++ [f] ++ fields := by simp
      rw [happend] at h ⊢
      rw [← ih h, putAll, List.foldl_cons, put_of_notMem hnew]
      rfl

theorem spells_list (step level : Nat) {items : List Value}
    (h : ∀ x ∈ items, Spells limit (indentedAt step (level + 1) x).toList x) :
    Spells limit (indentedAt step level (.list items)).toList
      (.list items) := by
  have hparts : List.Forall₂ (fun text x => Spells limit text.toList x)
      (indentedItems step (level + 1) items) items := by
    rw [indentedItems_eq_map, List.forall₂_map_left_iff, List.forall₂_same]
    exact h
  have hall : (items.foldl (fun done v => v :: done) []).reverse = items := by
    rw [List.foldl_flip_cons_eq_append', List.append_nil, List.reverse_reverse]
  have hopening : "[".toList = ['['] := rfl
  have hclosing : "]".toList = [']'] := rfl
  have hspells := readsBrackets_items.spells step level hopening hclosing hparts
  rw [hall] at hspells
  rw [indentedAt]
  exact hspells

theorem spells_record (step level : Nat) {fields : List (String × Value)}
    (hkeys : (fields.map Prod.fst).Nodup)
    (h : ∀ f ∈ fields,
      Spells limit (indentedAt step (level + 1) f.2).toList f.2) :
    Spells limit (indentedAt step level (.record fields)).toList
      (.record fields) := by
  have hparts : List.Forall₂ (fun text f => SpellsField limit text.toList f)
      (indentedFields step (level + 1) fields) fields := by
    rw [indentedFields_eq_map, List.forall₂_map_left_iff, List.forall₂_same]
    intro f hf
    refine ⟨(indentedAt step (level + 1) f.2).toList, ?_, h f hf⟩
    simp only [String.toList_append, List.append_assoc]
    rfl
  have hopening : "\x7b".toList = ['\x7b'] := rfl
  have hclosing : "\x7d".toList = ['\x7d'] := rfl
  have hspells :=
    readsBrackets_fields.spells step level hopening hclosing hparts
  have hall : fields.foldl (fun done f => put f.1 f.2 done) [] = fields :=
    putAll_of_nodup hkeys
  rw [hall] at hspells
  rw [indentedAt]
  exact hspells

/-- What is written for a value, at whatever level, spells it. -/
theorem spells_indentedAt (step : Nat) {v : Value} (h : v.IsJson limit)
    (level : Nat) : Spells limit (indentedAt step level v).toList v := by
  induction h generalizing level with
  | null =>
      have hread : readPlain ⟨"null".toList, 0⟩ = .ok (.null, ⟨[], 4⟩) := rfl
      exact spells_plain hread rfl nofun
  | bool b =>
      cases b with
      | false =>
          have hread : readPlain ⟨"false".toList, 0⟩
              = .ok (.bool false, ⟨[], 5⟩) := rfl
          exact spells_plain hread rfl nofun
      | true =>
          have hread : readPlain ⟨"true".toList, 0⟩
              = .ok (.bool true, ⟨[], 4⟩) := rfl
          exact spells_plain hread rfl nofun
  | int n hshort =>
      obtain ⟨after, hall, hread⟩ := readPlain_int n 0
      refine spells_plain hread hall fun _ most _ hmost => ?_
      exact Nat.le_trans (Nat.le_of_eq (length_toList_int n))
        (hshort most hmost)
  | real hreal =>
      obtain ⟨after, hall, hread⟩ := readPlain_real hreal
      exact spells_plain hread hall nofun
  | text s => exact spells_string s
  | list _ ih => exact spells_list step level fun x hx => ih x hx (level + 1)
  | record hkeys _ ih =>
      exact spells_record step level hkeys fun f hf => ih f hf (level + 1)

/-- Reading undoes writing. -/
theorem readUpTo_indented {v : Value} (h : v.IsJson limit) :
    readUpTo limit (indented v) = .ok v := by
  obtain ⟨⟨c, more, htext, hspace, -, hmark⟩, hreads⟩ := spells_indentedAt 2 h 0
  have hblank : Blank [] := by simp [Blank]
  have hskip : Rest.skipSpace ⟨c :: more, 0⟩ = ⟨c :: more, 0⟩ :=
    skipSpace_blank hblank hspace more 0
  obtain ⟨after, hafter⟩ :=
    hreads (2 * (c :: more).length + 2) 0 [] (by rw [htext]; omega)
    (by simp [Ended])
  rw [List.append_nil, htext] at hafter
  unfold readUpTo indented
  rw [htext]
  split
  · rename_i heq
    exact absurd (List.cons.inj heq).1 hmark
  · rw [hskip, hafter]
    rfl

end Json

/-- What can be written within the limit of digits is read back. -/
theorem ofJson_indented {v : Value} (h : v.IsJson (some Text.digitLimit)) :
    Value.ofJson (Json.indented v) = .ok v := by
  rw [Value.ofJson, Json.readUpTo_indented h]
  rfl

end Value

-- ============================================================= results

open Value (IsJson)

theorem Finding.isJson_toValue {f : Finding}
    (h : ∀ entry ∈ f.fields, entry.2.IsJson none) : f.toValue.IsJson none := by
  have hkeys : (f.fields.map Prod.fst).Nodup := by
    simp only [Finding.fields, List.map_cons, List.map_nil]
    decide
  exact .record hkeys h

theorem isJson_severityCounts (findings : List Finding) :
    (Value.record (severityCounts findings)).IsJson none := by
  have hnames : (Severity.all.map Severity.name).Nodup := by decide
  have hkeys : ((severityCounts findings).map Prod.fst).Nodup := by
    rw [severityCounts, List.map_map]
    exact hnames
  refine .record hkeys fun entry hentry => ?_
  obtain ⟨level, -, rfl⟩ := List.mem_map.1 hentry
  exact Value.isJson_int _

/-- The text of results is lossless: the record that it is made from is read
back from it, with all fields in their order. -/
theorem read_indented_resultsRecord (findings : List Finding) (metadata : Value)
    (hfindings : ∀ f ∈ findings, ∀ entry ∈ f.fields, entry.2.IsJson none)
    (hmetadata : metadata.IsJson none) :
    Value.Json.read
      (Value.Json.indented (.record (resultsRecord findings metadata)))
      = .ok (.record (resultsRecord findings metadata)) := by
  have hissues : (Value.list (findings.map Finding.toValue)).IsJson none := by
    refine .list fun x hx => ?_
    obtain ⟨f, hf, rfl⟩ := List.mem_map.1 hx
    exact Finding.isJson_toValue (hfindings f hf)
  have hsummary : (Value.record
      [("total_issues", Value.ofNat findings.length),
       ("severity_counts",
         .record (severityCounts findings))]).IsJson none := by
    refine .record (by simp) fun entry hentry => ?_
    simp only [List.mem_cons, List.not_mem_nil, or_false] at hentry
    rcases hentry with rfl | rfl
    · exact Value.isJson_int _
    · exact isJson_severityCounts findings
  apply Value.Json.readUpTo_indented
  refine .record (by simp [resultsRecord]) fun entry hentry => ?_
  simp only [resultsRecord, List.mem_cons, List.not_mem_nil, or_false] at hentry
  rcases hentry with rfl | rfl | rfl
  · exact hissues
  · exact hsummary
  · exact hmetadata

/-- A finding with quotes, controls and characters beyond the basic plane in its
texts, with a large number for a line, and with empty and nested data. -/
def intricateFinding : Finding where
  rule := .text "a \"quoted\" rule"
  severity := .critical
  category := .text "tab\there, \x01\x1f\x7f and \\"
  message := .text "é, 漢 and 𝒳😀"
  file := .text "src/ü.py"
  line := .int (10 ^ 40)
  column := .null
  snippet := .text "line\nfeed"
  remediation := .text ""
  confidence := .int 1
  metadata :=
    .record [("", .list [.null, .list [], .list [.record []]]),
      ("\\u0041", .bool true),
      ("depth",
        .record [("-", .int (-7)),
          ("A", .list [.bool false, .text "\x7b\"a\": 1\x7d"])])]
  standards := none
  frameworks := none

theorem read_indented_intricateFinding :
    ((∀ entry ∈ intricateFinding.fields, entry.2.IsJson none) ∧
        (Value.record []).IsJson none) ∧
      Value.Json.read
          (Value.Json.indented
            (.record (resultsRecord [intricateFinding] (.record []))))
        = .ok (.record (resultsRecord [intricateFinding] (.record []))) := by
  have hfields : ∀ entry ∈ intricateFinding.fields, entry.2.IsJson none := by
    simp [intricateFinding, Finding.fields, Value.isJson_list_iff,
      Value.isJson_record_iff, IsJson.null, IsJson.bool, Value.isJson_int,
      IsJson.text]
  have hmetadata : (Value.record []).IsJson none := .record .nil (by simp)
  refine ⟨⟨hfields, hmetadata⟩, ?_⟩
  apply read_indented_resultsRecord
  · simpa using hfields
  · exact hmetadata

end SourceAudit
