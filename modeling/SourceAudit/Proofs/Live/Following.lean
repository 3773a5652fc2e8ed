/-
The followers of scans: what each operation does to them.

Everything here goes through `Live.following?`, the list of one scan: an
operation on a scan changes the list of that scan in one way and no other list
at all. The lookup finds the list it should because no scan has two of them,
which is part of what every operation keeps (`Live.Sound`): one list for a scan,
none of them empty, each with a number given out before.
-/
import SourceAudit.Live.Updates
import Mathlib.Data.List.Basic

namespace SourceAudit

/-- What holds of the followers at all times: a scan has one list at most, no
list is empty, and the numbers of lists have been given out. -/
structure Live.Sound (l : Live) : Prop where
  distinct : (l.followings.map Following.scan).Nodup
  peopled : ∀ f ∈ l.followings, f.clients ≠ []
  numbered : ∀ f ∈ l.followings, f.serial < l.lists

/-- What is left of a list when a client is taken off it: nothing if it was the
only one. -/
def Following.without (g : Following) (client : String) : Option Following :=
  if g.clients.erase client = [] then none
  else some { g with clients := g.clients.erase client }

namespace Live

/-- At the start there are no lists. -/
theorem sound_empty : Live.empty.Sound :=
  ⟨List.nodup_nil, fun _ h => absurd h List.not_mem_nil, fun _ h =>
    absurd h List.not_mem_nil⟩

-- ============================================================== lookup

/-- The list that is found is one of the lists, and that of the scan. -/
theorem following?_some {l : Live} {scan : String} {f : Following}
    (h : l.following? scan = some f) : f ∈ l.followings ∧ f.scan = scan := by
  unfold following? at h
  have hscan := List.find?_some h
  rw [beq_iff_eq] at hscan
  exact ⟨List.mem_of_find?_eq_some h, hscan⟩

/-- A scan without a list is on no list. -/
theorem following?_none {l : Live} {scan : String} :
    l.following? scan = none ↔ ∀ f ∈ l.followings, f.scan ≠ scan := by
  unfold following?
  rw [List.find?_eq_none]
  exact forall₂_congr fun f _ => by rw [beq_iff_eq]

/-- The followers of a scan that has a list are those on it. -/
theorem of_of_following {l : Live} {scan : String} {f : Following}
    (h : l.following? scan = some f) : l.of scan = f.clients := by
  unfold of
  rw [h]
  rfl

/-- Looking up a list among those that pass a test: where no scan has two, it is
the list that is found among all, if it passes. -/
theorem find?_filter_following (p : Following → Bool) (scan : String)
    (fs : List Following) (h : (fs.map Following.scan).Nodup) :
    (fs.filter p).find? (fun f => f.scan == scan)
      = (fs.find? fun f => f.scan == scan).filter p := by
  induction fs with
  | nil => rfl
  | cons f fs ih =>
      rw [List.map_cons, List.nodup_cons] at h
      obtain ⟨hnew, hrest⟩ := h
      cases hscan : f.scan == scan with
      | true =>
          -- the others have other scans, so only the first one counts
          have hnone : fs.find? (fun g => g.scan == scan) = none := by
            rw [List.find?_eq_none]
            intro g hg hgs
            rw [beq_iff_eq] at hgs hscan
            exact hnew (List.mem_map.2 ⟨g, hg, hgs.trans hscan.symm⟩)
          rw [List.find?_cons_of_pos (l := fs) hscan]
          cases hp : p f with
          | true =>
              rw [List.filter_cons_of_pos hp,
                List.find?_cons_of_pos (l := fs.filter p) hscan]
              exact (Option.filter_some_pos hp).symm
          | false =>
              rw [List.filter_cons_of_neg (Bool.not_eq_true _ ▸ hp),
                ih hrest, hnone]
              exact (Option.filter_some_neg hp).symm
      | false =>
          have hneg : ¬ (f.scan == scan) = true := by
            rw [hscan]; exact Bool.false_ne_true
          rw [List.find?_cons_of_neg (l := fs) hneg, ← ih hrest]
          cases hp : p f with
          | true =>
              rw [List.filter_cons_of_pos hp,
                List.find?_cons_of_neg (l := fs.filter p) hneg]
          | false => rw [List.filter_cons_of_neg (Bool.not_eq_true _ ▸ hp)]

-- ========================================================== operations

/-- Changing the clients of a scan changes its list and no other. -/
theorem following?_revise (l : Live) (scan : String)
    (f : List String → List String) (s : String) :
    (l.revise scan f).following? s
      = if s = scan then (l.following? s).map fun g =>
        { g with clients := f g.clients }
        else l.following? s := by
  unfold revise following?
  rw [List.find?_map]
  have hkey : ((fun g : Following => g.scan == s) ∘ fun g : Following =>
      if g.scan == scan then { g with clients := f g.clients } else g)
        = fun g => g.scan == s := by
    funext g
    rw [Function.comp_apply]
    split <;> rfl
  rw [hkey]
  cases hfind : l.followings.find? fun g => g.scan == s with
  | none => rw [Option.map_none, Option.map_none, ite_self]
  | some g =>
      have hg := List.find?_some hfind
      rw [beq_iff_eq] at hg
      subst hg
      by_cases hs : g.scan = scan
      · rw [if_pos hs, Option.map_some, Option.map_some,
          if_pos (beq_iff_eq.2 hs)]
      · rw [if_neg hs, Option.map_some, if_neg (mt beq_iff_eq.1 hs)]

/-- Forgetting a scan without followers takes away its list if that is empty. -/
theorem following?_forget {l : Live}
    (h : (l.followings.map Following.scan).Nodup) (scan s : String) :
    (l.forget scan).following? s
      = if s = scan then (l.following? s).filter fun g => !g.clients.isEmpty
        else l.following? s := by
  unfold forget
  show (l.followings.filter _).find? _ = _
  rw [find?_filter_following _ _ _ h]
  show (l.following? s).filter _ = _
  cases hfind : l.following? s with
  | none => rw [Option.filter_none, Option.filter_none, ite_self]
  | some g =>
      obtain ⟨-, rfl⟩ := following?_some hfind
      by_cases hs : g.scan = scan
      · rw [if_pos hs, Option.filter_some, Option.filter_some,
          bne_eq_false_iff_eq.2 hs, Bool.false_or]
      · rw [if_neg hs]
        exact Option.filter_some_pos (by rw [bne_iff_ne.2 hs, Bool.true_or])

/-- Changing clients keeps the scans that have lists. -/
theorem scans_revise (l : Live) (scan : String)
    (f : List String → List String) :
    (l.revise scan f).followings.map Following.scan
      = l.followings.map Following.scan := by
  unfold revise
  rw [List.map_map]
  refine List.map_congr_left fun g _ => ?_
  rw [Function.comp_apply]
  split <;> rfl

/-- A client that leaves a scan is taken off its list once; no other list
changes. -/
theorem following?_disconnect {l : Live} (h : l.Sound)
    (client scan s : String) :
    (l.disconnect client scan).following? s
      = if s = scan then (l.following? s).bind (Following.without · client)
        else l.following? s := by
  unfold disconnect
  rw [following?_forget (by rw [scans_revise]; exact h.distinct),
    following?_revise]
  by_cases hs : s = scan
  · rw [if_pos hs, if_pos hs, if_pos hs]
    cases l.following? s with
    | none => rfl
    | some g =>
        rw [Option.map_some, Option.filter_some, Option.bind_some]
        unfold Following.without
        by_cases hempty : g.clients.erase client = []
        · rw [if_pos hempty, if_neg]
          rw [hempty]
          exact Bool.false_ne_true
        · rw [if_neg hempty, if_pos]
          rw [Bool.not_eq_true', List.isEmpty_eq_false_iff]
          exact hempty
  · rw [if_neg hs, if_neg hs, if_neg hs]

/-- A client that joins a scan stands last on its list, which is a new one if
there was none; no other list changes. -/
theorem following?_join (l : Live) (client scan s : String) :
    (l.join client scan).following? s
      = if s = scan then
          match l.following? s with
          | some g => some { g with clients := g.clients ++ [client] }
          | none => some ⟨scan, l.lists, [client]⟩
        else l.following? s := by
  unfold join isFollowed
  cases hfind : l.following? scan with
  | some g =>
      rw [Option.isSome_some, if_pos rfl, following?_revise]
      by_cases hs : s = scan
      · subst hs
        rw [if_pos rfl, if_pos rfl, hfind]
        rfl
      · rw [if_neg hs, if_neg hs]
  | none =>
      rw [Option.isSome_none, if_neg Bool.false_ne_true]
      show (l.followings ++ _).find? _ = _
      rw [List.find?_append]
      by_cases hs : s = scan
      · subst hs
        show (l.following? s).or _ = _
        rw [hfind, if_pos rfl, Option.none_or, List.find?_singleton,
          if_pos (beq_self_eq_true s)]
      · show (l.following? s).or _ = _
        rw [if_neg hs, List.find?_singleton,
          if_neg (mt beq_iff_eq.1 (Ne.symm hs)), Option.or_none]

-- =========================================================== soundness

/-- A list after a change of clients is one of before with its clients changed
or not. -/
theorem mem_revise {l : Live} {scan : String} {f : List String → List String}
    {g : Following} (hg : g ∈ (l.revise scan f).followings) :
    ∃ g₀ ∈ l.followings, g.scan = g₀.scan ∧ g.serial = g₀.serial ∧
      g.clients = if g₀.scan = scan then f g₀.clients else g₀.clients := by
  obtain ⟨g₀, hg₀, rfl⟩ := List.mem_map.1 hg
  refine ⟨g₀, hg₀, ?_⟩
  by_cases hs : g₀.scan = scan
  · rw [if_pos (beq_iff_eq.2 hs), if_pos hs]
    exact ⟨rfl, rfl, rfl⟩
  · rw [if_neg (mt beq_iff_eq.1 hs), if_neg hs]
    exact ⟨rfl, rfl, rfl⟩

/-- Taking a client off a list keeps the followers sound. -/
theorem Sound.disconnect {l : Live} (h : l.Sound) (client scan : String) :
    (l.disconnect client scan).Sound := by
  unfold Live.disconnect forget
  refine ⟨?_, ?_, ?_⟩
  · have hkept := h.distinct
    rw [← scans_revise l scan fun cs => cs.erase client] at hkept
    exact hkept.sublist (List.filter_sublist.map Following.scan)
  · intro g hg hempty
    obtain ⟨hmem, hkept⟩ := List.mem_filter.1 hg
    obtain ⟨g₀, hg₀, hscan, -, hclients⟩ := mem_revise hmem
    by_cases hs : g₀.scan = scan
    · rw [hscan, bne_eq_false_iff_eq.2 hs, Bool.false_or, hempty] at hkept
      exact Bool.false_ne_true hkept
    · rw [if_neg hs] at hclients
      exact h.peopled g₀ hg₀ (hclients ▸ hempty)
  · intro g hg
    obtain ⟨g₀, hg₀, -, hserial, -⟩ := mem_revise (List.mem_filter.1 hg).1
    rw [hserial]
    exact h.numbered g₀ hg₀

/-- Taking several clients off a list keeps the followers sound. -/
theorem Sound.drop {l : Live} (h : l.Sound) (scan : String)
    (clients : List String) : (l.drop scan clients).Sound := by
  unfold Live.drop
  induction clients generalizing l with
  | nil => exact h
  | cons client clients ih => exact ih (h.disconnect client scan)

/-- A client that joins keeps the followers sound. -/
theorem Sound.join {l : Live} (h : l.Sound) (client scan : String) :
    (l.join client scan).Sound := by
  unfold Live.join isFollowed
  cases hfind : l.following? scan with
  | some f =>
      rw [Option.isSome_some, if_pos rfl]
      refine ⟨?_, ?_, ?_⟩
      · rw [scans_revise]
        exact h.distinct
      · intro g hg hempty
        obtain ⟨g₀, hg₀, -, -, hclients⟩ := mem_revise hg
        rw [hempty] at hclients
        split at hclients
        · exact List.append_ne_nil_of_right_ne_nil _
            (List.cons_ne_nil _ _) hclients.symm
        · exact h.peopled g₀ hg₀ hclients.symm
      · intro g hg
        obtain ⟨g₀, hg₀, -, hserial, -⟩ := mem_revise hg
        rw [hserial]
        exact h.numbered g₀ hg₀
  | none =>
      rw [Option.isSome_none, if_neg Bool.false_ne_true]
      refine ⟨?_, ?_, ?_⟩
      · rw [List.map_append, List.nodup_append]
        refine ⟨h.distinct, List.pairwise_singleton _ _,
          fun s hs t ht hst => ?_⟩
        obtain ⟨g, hg, rfl⟩ := List.mem_map.1 hs
        rw [List.map_singleton, List.mem_singleton] at ht
        exact following?_none.1 hfind g hg (hst.trans ht)
      · intro g hg
        rcases List.mem_append.1 hg with hg | hg
        · exact h.peopled g hg
        · rw [List.mem_singleton.1 hg]
          exact List.cons_ne_nil _ _
      · intro g hg
        rcases List.mem_append.1 hg with hg | hg
        · exact Nat.lt_succ_of_lt (h.numbered g hg)
        · rw [List.mem_singleton.1 hg]
          exact Nat.lt_succ_self _

/-- Writing a message down changes no list. -/
theorem Sound.record {l : Live} (h : l.Sound) (client text : String) :
    (l.record client text).Sound :=
  ⟨h.distinct, h.peopled, h.numbered⟩

/-- A client that begins to follow a scan keeps the followers sound. -/
theorem Sound.connect {l : Live} (h : l.Sound) (client scan : String) :
    (l.connect client scan).Sound :=
  (h.record client "accept").join client scan

/-- A scan with a list has followers. -/
theorem Sound.clients_ne_nil {l : Live} (h : l.Sound) {scan : String}
    {f : Following} (hf : l.following? scan = some f) : f.clients ≠ [] :=
  h.peopled f (following?_some hf).1

/-- A scan is forgotten exactly when nobody follows it. -/
theorem Sound.following?_eq_none_iff {l : Live} (h : l.Sound) (scan : String) :
    l.following? scan = none ↔ l.of scan = [] := by
  unfold of
  cases hf : l.following? scan with
  | none => exact ⟨fun _ => rfl, fun _ => rfl⟩
  | some f =>
      exact ⟨fun hn => (nomatch hn), fun hn => absurd hn (h.clients_ne_nil hf)⟩

-- ============================================================= leaving

/-- A client that leaves a scan is taken off its followers once. -/
theorem of_disconnect {l : Live} (h : l.Sound) (client scan : String) :
    (l.disconnect client scan).of scan = (l.of scan).erase client := by
  unfold of
  rw [following?_disconnect h, if_pos rfl]
  cases l.following? scan with
  | none => rfl
  | some f =>
      rw [Option.bind_some]
      unfold Following.without
      by_cases hempty : f.clients.erase client = []
      · rw [if_pos hempty]
        exact hempty.symm
      · rw [if_neg hempty]
        rfl

/-- Clients that leave a scan are taken off its followers, each once. -/
theorem of_drop {l : Live} (h : l.Sound) (scan : String)
    (clients : List String) :
    (l.drop scan clients).of scan = (l.of scan).diff clients := by
  induction clients generalizing l with
  | nil => rfl
  | cons client clients ih =>
      rw [List.diff_cons, ← of_disconnect h]
      exact ih (h.disconnect client scan)

/-- Clients that leave a scan leave the followers of the others alone. -/
theorem following?_drop_of_ne {l : Live} (h : l.Sound) {scan s : String}
    (hs : s ≠ scan) (clients : List String) : (l.drop scan clients).following? s
      = l.following? s := by
  induction clients generalizing l with
  | nil => rfl
  | cons client clients ih =>
      have hone : (l.disconnect client scan).following? s = l.following? s := by
        rw [following?_disconnect h, if_neg hs]
      rw [← hone]
      exact ih (h.disconnect client scan)

end Live

end SourceAudit
