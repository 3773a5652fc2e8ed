/-
The plain form of a path.

All that counts about a path is its root and its names: repeated slashes, single
dots and a slash at the end are lost in its plain form. `plain` writes a path
from the two, and `root_plain` and `names_plain` read them back. That a path and
its plain form lead to the same place, that a plain form is its own plain form,
and what the names of a joined path are, all follow from these.
-/
import SourceAudit.Path
import Mathlib.Data.List.Basic

namespace SourceAudit

-- ============================================================== pieces

namespace Text

/-- Characters other than the separator join the piece under way. -/
theorem splitAtChar_append {sep : Char} {body : List Char} (h : sep ∉ body)
    (piece rest : List Char) :
    splitAtChar sep piece (body ++ rest)
      = splitAtChar sep (body.reverse ++ piece) rest := by
  induction body generalizing piece with
  | nil => rfl
  | cons c body ih =>
      obtain ⟨hc, hbody⟩ : ¬sep = c ∧ sep ∉ body := by simpa using h
      have hne : (c == sep) = false := by simpa using Ne.symm hc
      rw [List.cons_append, splitAtChar, hne,
        if_neg Bool.false_ne_true, ih hbody]
      simp

/-- No piece holds the separator, if the one under way does not. -/
theorem splitAtChar_noSep {sep : Char} {piece : List Char} (h : sep ∉ piece)
    (cs : List Char) : ∀ p ∈ splitAtChar sep piece cs, sep ∉ p := by
  induction cs generalizing piece with
  | nil => simpa [splitAtChar] using h
  | cons c cs ih =>
      intro p hp
      rw [splitAtChar] at hp
      split at hp
      · rcases List.mem_cons.1 hp with rfl | hp
        · simpa using h
        · exact ih List.not_mem_nil p hp
      · rename_i hc
        refine ih ?_ p hp
        have hne : ¬sep = c := fun heq => hc (by simp [heq])
        simpa [hne] using h

/-- A text before the separator is the first piece. -/
theorem splitOnChar_cons {s t : String} {sep : Char} (h : sep ∉ s.toList) :
    splitOnChar sep (s ++ String.singleton sep ++ t)
      = s :: splitOnChar sep t := by
  unfold splitOnChar
  rw [String.toList_append, String.toList_append, List.append_assoc,
    splitAtChar_append h]
  simp [splitAtChar]

/-- A text without the separator is its own only piece. -/
theorem splitOnChar_single {s : String} {sep : Char} (h : sep ∉ s.toList) :
    splitOnChar sep s = [s] := by
  unfold splitOnChar
  have hsplit := splitAtChar_append h [] []
  rw [List.append_nil] at hsplit
  simp [hsplit, splitAtChar]

end Text

namespace Path

-- =============================================================== names

/-- What can be the name of a file or a folder in a path. -/
structure IsName (n : String) : Prop where
  ne_empty : n ≠ ""
  ne_dot : n ≠ "."
  noSlash : '/' ∉ n.toList

/-- The named parts of a path are names. -/
theorem isName_of_mem_names {path n : String} (h : n ∈ names path) :
    IsName n := by
  obtain ⟨hpiece, hkept⟩ := List.mem_filter.1 h
  obtain ⟨cs, hcs, rfl⟩ := List.mem_map.1 hpiece
  simp only [Bool.and_eq_true, bne_iff_ne, ne_eq] at hkept
  refine ⟨hkept.1, hkept.2, ?_⟩
  rw [String.toList_ofList]
  exact Text.splitAtChar_noSep List.not_mem_nil _ cs hcs

/-- A name in front of a slash is the first name. -/
theorem names_cons {n : String} (h : IsName n) (rest : String) :
    names (n ++ "/" ++ rest) = n :: names rest := by
  unfold names
  rw [show n ++ "/" ++ rest = n ++ String.singleton '/' ++ rest from rfl,
    Text.splitOnChar_cons h.noSlash, List.filter_cons_of_pos]
  simp [h.ne_empty, h.ne_dot]

/-- Names written with slashes between them are read back. -/
theorem names_intercalate {ns : List String} (h : ∀ n ∈ ns, IsName n) :
    names ("/".intercalate ns) = ns := by
  induction ns with
  | nil => rfl
  | cons n rest ih =>
      have hn : IsName n := h n List.mem_cons_self
      have hrest : ∀ m ∈ rest, IsName m :=
        fun m hm => h m (List.mem_cons_of_mem n hm)
      cases rest with
      | nil =>
          rw [String.intercalate_singleton, names,
            Text.splitOnChar_single hn.noSlash]
          simp [hn.ne_empty, hn.ne_dot]
      | cons m more =>
          rw [String.intercalate_cons_cons, names_cons hn, ih hrest]

/-- A slash in front adds no name. -/
theorem names_slash (s : String) : names ("/" ++ s) = names s := by
  unfold names
  rw [show "/" ++ s = "" ++ String.singleton '/' ++ s from rfl,
    Text.splitOnChar_cons (by simp), List.filter_cons_of_neg (by simp)]

/-- Written names do not begin with a slash. -/
theorem head_intercalate {ns : List String} (h : ∀ n ∈ ns, IsName n) :
    ("/".intercalate ns).toList.head? ≠ some '/' := by
  cases ns with
  | nil => simp
  | cons n rest =>
      have hn : IsName n := h n List.mem_cons_self
      obtain ⟨c, cs, hcs⟩ : ∃ c cs, n.toList = c :: cs := by
        cases hlist : n.toList with
        | nil => exact absurd (String.toList_eq_nil_iff.1 hlist) hn.ne_empty
        | cons c cs => exact ⟨c, cs, rfl⟩
      have hc : c ≠ '/' :=
        fun heq => hn.noSlash (by rw [hcs, heq]; exact List.mem_cons_self)
      cases rest with
      | nil => simpa [hcs] using hc
      | cons m more => simpa [String.intercalate_cons_cons, hcs] using hc

-- ========================================================== plain form

/-- A path written from its root and its names. -/
def plain (root : String) (ns : List String) : String :=
  let written := root ++ "/".intercalate ns
  if written == "" then "." else written

theorem normal_eq_plain (path : String) :
    normal path = plain (root path) (names path) := rfl

/-- The three roots. -/
def roots : List String := ["", "/", "//"]

theorem root_mem_roots (path : String) : root path ∈ roots := by
  unfold root
  split <;> decide

/-- The root of a text that goes on without a slash. -/
theorem root_append {r s : String} (hr : r ∈ roots)
    (hs : s.toList.head? ≠ some '/') : root (r ++ s) = r := by
  have hnone (c : Char) (cs : List Char) (hc : s.toList = c :: cs) : c
      ≠ '/' := by
    rintro rfl
    exact hs (by rw [hc]; rfl)
  simp only [roots, List.mem_cons, List.not_mem_nil, or_false] at hr
  unfold root
  rw [String.toList_append]
  cases hlist : s.toList with
  | nil => rcases hr with rfl | rfl | rfl <;> rfl
  | cons c cs =>
      have hc : c ≠ '/' := hnone c cs hlist
      rcases hr with rfl | rfl | rfl <;> simp [hc]

/-- Names and a root that is not empty make no empty text. -/
theorem plain_of_ne {r : String} {ns : List String}
    (h : r ++ "/".intercalate ns ≠ "") :
    plain r ns = r ++ "/".intercalate ns := by
  simp [plain, h]

/-- The root of a plain form. -/
theorem root_plain {r : String} {ns : List String} (hr : r ∈ roots)
    (h : ∀ n ∈ ns, IsName n) : root (plain r ns) = r := by
  by_cases hempty : r ++ "/".intercalate ns = ""
  · have hroot := root_append hr (head_intercalate h)
    rw [hempty] at hroot
    rw [plain, hempty, ← hroot]
    rfl
  · rw [plain_of_ne hempty, root_append hr (head_intercalate h)]

theorem names_append {r : String} {ns : List String} (hr : r ∈ roots)
    (h : ∀ n ∈ ns, IsName n) : names (r ++ "/".intercalate ns) = ns := by
  simp only [roots, List.mem_cons, List.not_mem_nil, or_false] at hr
  rcases hr with rfl | rfl | rfl
  · rw [String.empty_append, names_intercalate h]
  · rw [names_slash, names_intercalate h]
  · rw [show ("//" : String) = "/" ++ "/" from rfl, String.append_assoc,
      names_slash, names_slash, names_intercalate h]

/-- The names of a plain form. -/
theorem names_plain {r : String} {ns : List String} (hr : r ∈ roots)
    (h : ∀ n ∈ ns, IsName n) : names (plain r ns) = ns := by
  have hnames := names_append hr h
  by_cases hempty : r ++ "/".intercalate ns = ""
  · rw [hempty] at hnames
    rw [plain, hempty, ← hnames]
    rfl
  · rw [plain_of_ne hempty, hnames]

-- ============================================================== normal

@[simp] theorem root_normal (path : String) : root (normal path) = root path :=
  root_plain (root_mem_roots path) fun _ => isName_of_mem_names

@[simp] theorem names_normal (path : String) :
    names (normal path) = names path :=
  names_plain (root_mem_roots path) fun _ => isName_of_mem_names

/-- A plain form is its own plain form. -/
@[simp] theorem normal_plain {r : String} {ns : List String} (hr : r ∈ roots)
    (h : ∀ n ∈ ns, IsName n) : normal (plain r ns) = plain r ns := by
  rw [normal_eq_plain, root_plain hr h, names_plain hr h]

@[simp] theorem normal_normal (path : String) :
    normal (normal path) = normal path := by
  rw [normal_eq_plain, root_normal, names_normal, ← normal_eq_plain]

/-- A path and its plain form have the same ending. -/
@[simp] theorem ending_normal (path : String) :
    ending (normal path) = ending path := by
  unfold ending name
  rw [names_normal]

-- ================================================================ join

/-- The plain form is a dot for the path without root and names alone. -/
theorem normal_eq_dot_iff (path : String) :
    normal path = "." ↔ root path = "" ∧ names path = [] := by
  constructor
  · intro h
    have hroot := root_normal path
    have hnames := names_normal path
    rw [h] at hroot hnames
    exact ⟨hroot.symm, hnames.symm⟩
  · rintro ⟨hroot, hnames⟩
    rw [normal_eq_plain, hroot, hnames]
    rfl

/-- The plain form is the root for a path without names alone. -/
theorem normal_eq_root_iff {path : String} (h : root path ≠ "") :
    normal path = root path ↔ names path = [] := by
  constructor
  · intro hsame
    have hnames := names_normal path
    rw [hsame] at hnames
    have hr := root_mem_roots path
    simp only [roots, List.mem_cons, List.not_mem_nil, or_false] at hr
    rcases hr with hr | hr | hr
    · exact absurd hr h
    · rw [← hnames, hr]; decide
    · rw [← hnames, hr]; decide
  · intro hnames
    rw [normal_eq_plain, hnames, plain_of_ne (by simpa using h),
      String.intercalate_nil, String.append_empty]

/-- A path with names is written out as it is. -/
theorem normal_of_names {path : String} (h : names path ≠ []) :
    normal path = root path ++ "/".intercalate (names path) := by
  rw [normal_eq_plain, plain_of_ne]
  intro hempty
  have hnames : ∀ name ∈ names path, IsName name := fun _ => isName_of_mem_names
  have hplain := names_plain (root_mem_roots path) hnames
  rw [plain, hempty] at hplain
  exact h (hplain.symm.trans rfl)

/-- A path inside a folder has the root of the folder and the names of both. -/
theorem join_eq_plain (folder : String) {inner : String} (h : root inner = "") :
    join folder inner = plain (root folder) (names folder ++ names inner) := by
  unfold join
  rw [h, if_neg (by simp)]
  by_cases hdot : normal folder = "."
  · obtain ⟨hroot, hnames⟩ := (normal_eq_dot_iff folder).1 hdot
    rw [if_pos (by simp [hdot]), normal_eq_plain, h, hroot, hnames,
      List.nil_append]
  rw [if_neg (by simpa using hdot)]
  by_cases hinner : names inner = []
  · rw [if_pos (by simp [(normal_eq_dot_iff inner).2 ⟨h, hinner⟩]), hinner,
      List.append_nil, normal_eq_plain]
  have hwritten : normal inner = "/".intercalate (names inner) := by
    rw [normal_of_names hinner, h, String.empty_append]
  rw [if_neg (by simp [normal_eq_dot_iff, hinner])]
  by_cases hfolder : names folder = []
  · have hroot : root folder ≠ "" :=
      fun hr => hdot ((normal_eq_dot_iff folder).2 ⟨hr, hfolder⟩)
    have hsame : normal folder = root folder :=
      (normal_eq_root_iff hroot).2 hfolder
    rw [if_pos (by simp [hsame]), hsame, hwritten, hfolder, List.nil_append,
      plain_of_ne]
    simp [hroot]
  · have hsame : normal folder ≠ root folder := by
      intro heq
      have hempty : root folder = "" := by
        by_contra hroot
        exact hfolder ((normal_eq_root_iff hroot).1 heq)
      rw [hempty] at heq
      have hnames := names_normal folder
      rw [heq] at hnames
      exact hfolder (hnames.symm.trans rfl)
    rw [if_neg (by simpa using hsame), normal_of_names hfolder, hwritten,
      plain_of_ne]
    · rw [String.intercalate_append_of_ne_nil hfolder hinner]
      simp only [String.append_assoc]
    · rw [String.intercalate_append_of_ne_nil hfolder hinner]
      simp

/-- The names of a folder and of a path inside it. -/
theorem isName_of_mem_append {folder inner n : String}
    (h : n ∈ names folder ++ names inner) : IsName n := by
  rcases List.mem_append.1 h with h | h
  · exact isName_of_mem_names h
  · exact isName_of_mem_names h

theorem root_join (folder : String) {inner : String} (h : root inner = "") :
    root (join folder inner) = root folder := by
  rw [join_eq_plain folder h]
  exact root_plain (root_mem_roots folder) fun _ => isName_of_mem_append

theorem names_join (folder : String) {inner : String} (h : root inner = "") :
    names (join folder inner) = names folder ++ names inner := by
  rw [join_eq_plain folder h]
  exact names_plain (root_mem_roots folder) fun _ => isName_of_mem_append

/-- Joined paths are in plain form. -/
@[simp] theorem normal_join (folder inner : String) :
    normal (join folder inner) = join folder inner := by
  by_cases h : root inner = ""
  · rw [join_eq_plain folder h]
    exact normal_plain (root_mem_roots folder) fun _ => isName_of_mem_append
  · have hjoin : join folder inner = normal inner := by simp [join, h]
    rw [hjoin, normal_normal]

end Path

end SourceAudit
