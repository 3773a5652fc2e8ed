/-
What it is for a pattern to match, apart from the order in which its ways of
matching are tried.

`Expr.run` hands one way after another to a continuation until one is accepted.
Whether any is accepted depends on the spots alone to which the expression leads
from where it is tried (`Expr.Leads`, `run_isSome_iff`): trying ways in order
misses none, and the counter that bounds repetitions never runs out before the
text does (`repeatFrom_isSome_iff`).

An expression that looks at nothing beside what it reads leads past just the
texts it can read (`Expr.Leads.reads`, `exists_leads_of_reads`), wherever they
stand. So such a pattern occurs in a text just if the text has a part that it
reads (`occursIn_iff_reads`).
-/
import SourceAudit.Pattern.Basic

namespace SourceAudit.Pattern

-- =============================================================== spots

/-- One character that passes a test lies between two spots. -/
def Takes (test : Char → Bool) (s t : Spot) : Prop :=
  ∃ c rest, s.rest = c :: rest ∧ test c = true ∧ t = s.advance c rest

/-- Repetitions of a step lead from one spot to another, `count` of them having
been made. There are as many as are needed at least; each one more moves on. -/
inductive Repeats (step : Spot → Spot → Prop) (least : Nat)
    (most : Option Nat) :
    Nat → Spot → Spot → Prop
  | enough {count : Nat} {s : Spot} (h : least ≤ count) :
  Repeats step least most count s s
  | needed {count : Nat} {s t u : Spot} (h : count < least) (first : step s t)
      (later : Repeats step least most (count + 1) t u) :
      Repeats step least most count s u
  | further {count : Nat} {s t u : Spot} (h : least ≤ count)
      (room : most.any (· ≤ count) = false) (first : step s t)
      (moves : t.left < s.left)
      (later : Repeats step least most (count + 1) t u) :
      Repeats step least most count s u

/-- The spots to which an expression leads from a spot. -/
def Expr.Leads (ignoreCase : Bool) : Expr → Spot → Spot → Prop
  | .empty, s, t => t = s
  | .any, s, t => Takes (· != '\n') s t
  | .set negated items, s, t =>
    Takes (fun c => (items.any (SetItem.holds ignoreCase c)) != negated) s t
  | .seq p q, s, t => ∃ u, p.Leads ignoreCase s u ∧ q.Leads ignoreCase u t
  | .alt p q, s, t => p.Leads ignoreCase s t ∨ q.Leads ignoreCase s t
  | .repeated p least most, s, t =>
    Repeats (p.Leads ignoreCase) least most 0 s t
  | .group index p, s, t =>
    ∃ u, p.Leads ignoreCase s u ∧
      t = { u with groups :=
        (index, s.rest.take (s.left - u.left)) :: u.groups }
  | .notAhead p, s, t => t = s ∧ ¬∃ u, p.Leads ignoreCase s u
  | .start, s, t => t = s ∧ s.before.isNone = true
  | .stop, s, t => t = s ∧ (s.rest = [] ∨ s.rest = ['\n'])
  | .wordEdge, s, t => t = s ∧ s.atWordEdge = true

theorem Takes.left_le {test : Char → Bool} {s t : Spot} (h : Takes test s t) :
    t.left ≤ s.left := by
  obtain ⟨c, rest, -, -, rfl⟩ := h
  exact Nat.sub_le s.left 1

theorem Repeats.left_le {step : Spot → Spot → Prop}
    (hstep : ∀ s t, step s t → t.left ≤ s.left) {least : Nat}
    {most : Option Nat} {count : Nat} {s t : Spot}
    (h : Repeats step least most count s t) : t.left ≤ s.left := by
  induction h with
  | enough _ => exact Nat.le_refl _
  | needed _ first _ ih => exact Nat.le_trans ih (hstep _ _ first)
  | further _ _ first _ _ ih => exact Nat.le_trans ih (hstep _ _ first)

/-- No expression leads back. -/
theorem Expr.Leads.left_le {ignoreCase : Bool} {e : Expr} {s t : Spot}
    (h : e.Leads ignoreCase s t) : t.left ≤ s.left := by
  induction e generalizing s t with
  | empty => exact Nat.le_of_eq (congrArg Spot.left h)
  | any => exact Takes.left_le h
  | set negated items => exact Takes.left_le h
  | seq p q ihp ihq =>
      obtain ⟨u, hp, hq⟩ := h
      exact Nat.le_trans (ihq hq) (ihp hp)
  | alt p q ihp ihq => exact h.elim ihp ihq
  | repeated p least most ih => exact Repeats.left_le (fun _ _ => ih) h
  | group index p ih =>
      obtain ⟨u, hp, rfl⟩ := h
      exact (ih hp : u.left ≤ s.left)
  | notAhead p _ => exact Nat.le_of_eq (congrArg Spot.left h.1)
  | start => exact Nat.le_of_eq (congrArg Spot.left h.1)
  | stop => exact Nat.le_of_eq (congrArg Spot.left h.1)
  | wordEdge => exact Nat.le_of_eq (congrArg Spot.left h.1)

-- ================================================================= run

section Run

variable {α : Type} {k : Spot → Option α}

theorem one_isSome_iff (test : Char → Bool) (k : Spot → Option α) (s : Spot) :
    (one test k s).isSome = true ↔ ∃ t, Takes test s t ∧
      (k t).isSome = true := by
  unfold one Takes
  cases s.rest with
  | nil => simp
  | cons c rest =>
      simp only [List.cons.injEq]
      split
      · rename_i htest
        constructor
        · exact fun hk => ⟨_, ⟨c, rest, ⟨rfl, rfl⟩, htest, rfl⟩, hk⟩
        · rintro ⟨_, ⟨_, _, ⟨rfl, rfl⟩, -, rfl⟩, hk⟩
          exact hk
      · rename_i htest
        constructor
        · exact fun hk => absurd hk Bool.false_ne_true
        · rintro ⟨_, ⟨_, _, ⟨rfl, rfl⟩, hpass, -⟩, -⟩
          exact absurd hpass htest

/-- Repetitions tried in order miss none, if the counter exceeds the repetitions
that are still needed and the characters that are left. -/
theorem repeatFrom_isSome_iff {step : (Spot → Option α) → Spot → Option α}
    {leads : Spot → Spot → Prop} {least : Nat} {most : Option Nat}
    (hstep : ∀ j s, (step j s).isSome = true ↔ ∃ t, leads s t ∧
      (j t).isSome = true)
    (hleft : ∀ s t, leads s t → t.left ≤ s.left) {fuel count : Nat} {s : Spot}
    (hfuel : s.left + (least - count) < fuel) :
    (repeatFrom step least most k fuel count s).isSome = true ↔
      ∃ t, Repeats leads least most count s t ∧ (k t).isSome = true := by
  induction fuel generalizing count s with
  | zero => omega
  | succ fuel ih =>
      rw [repeatFrom]
      split
      · -- a repetition that is needed uses one of the counter and one of
        -- those needed
        rename_i hneeded
        rw [hstep]
        constructor
        · rintro ⟨u, hu, hrun⟩
          have hle := hleft s u hu
          obtain ⟨t, hlater, ht⟩ := (ih (by omega)).1 hrun
          exact ⟨t, .needed hneeded hu hlater, ht⟩
        · rintro ⟨t, hreps, ht⟩
          cases hreps with
          | enough h => omega
          | needed _ hu hlater =>
              have hle := hleft _ _ hu
              exact ⟨_, hu, (ih (by omega)).2 ⟨t, hlater, ht⟩⟩
          | further h => omega
      · rename_i henough
        have henough : least ≤ count := Nat.le_of_not_lt henough
        split
        · rename_i hfull
          constructor
          · exact fun hk => ⟨s, .enough henough, hk⟩
          · rintro ⟨t, hreps, ht⟩
            cases hreps with
            | enough _ => exact ht
            | needed h => omega
            | further _ hroom =>
                exact absurd (hroom.symm.trans hfull) Bool.false_ne_true
        · rename_i hroom
          have hroom : most.any (· ≤ count) = false := by simpa using hroom
          -- a further repetition uses one of the counter and moves on
          have hfurther (t : Spot) (hmoves : t.left < s.left) :
              t.left + (least - (count + 1)) < fuel := by omega
          constructor
          · intro hrun
            dsimp only at hrun
            split at hrun
            · rename_i found hfound
              obtain ⟨u, hu, hlater⟩ := (hstep _ s).1 (by rw [hfound]; rfl)
              split at hlater
              · rename_i hmoves
                obtain ⟨t, hlater, ht⟩ := (ih (hfurther u hmoves)).1 hlater
                exact ⟨t, .further henough hroom hu hmoves hlater, ht⟩
              · cases hlater
            · exact ⟨s, .enough henough, hrun⟩
          · rintro ⟨t, hreps, ht⟩
            dsimp only
            split
            · rfl
            · rename_i hnone
              cases hreps with
              | enough _ => exact ht
              | needed h => omega
              | further _ _ hu hmoves hlater =>
                  have hrest := (ih (hfurther _ hmoves)).2 ⟨t, hlater, ht⟩
                  have hsome := (hstep
                    (fun t => if t.left < s.left then
                        repeatFrom step least most k fuel (count + 1) t
                      else none) s).2
                    ⟨_, hu, (if_pos hmoves).symm ▸ hrest⟩
                  rw [hnone] at hsome
                  cases hsome

end Run

/-- A run answers just if the expression leads to a spot that the continuation
accepts. -/
theorem run_isSome_iff (ignoreCase : Bool) (e : Expr) {α : Type}
    (k : Spot → Option α) (s : Spot) :
    (e.run ignoreCase k s).isSome = true ↔
      ∃ t, e.Leads ignoreCase s t ∧ (k t).isSome = true := by
  induction e generalizing α s with
  | empty => simp [Expr.run, Expr.Leads]
  | any => exact one_isSome_iff _ k s
  | set negated items => exact one_isSome_iff _ k s
  | seq p q ihp ihq =>
      rw [Expr.run, ihp]
      constructor
      · rintro ⟨u, hu, hrun⟩
        obtain ⟨t, ht, hk⟩ := (ihq k u).1 hrun
        exact ⟨t, ⟨u, hu, ht⟩, hk⟩
      · rintro ⟨t, ⟨u, hu, ht⟩, hk⟩
        exact ⟨u, hu, (ihq k u).2 ⟨t, ht, hk⟩⟩
  | alt p q ihp ihq =>
      have hor : (Expr.run ignoreCase (.alt p q) k s).isSome = true ↔
          (p.run ignoreCase k s).isSome = true ∨
            (q.run ignoreCase k s).isSome = true := by
        rw [Expr.run]
        cases p.run ignoreCase k s with
        | none => simp
        | some found => simp
      rw [hor, ihp, ihq, ← exists_or]
      simp only [Expr.Leads, or_and_right]
  | repeated p least most ih =>
      rw [Expr.run]
      exact repeatFrom_isSome_iff (fun j t => ih j t) (fun _ _ =>
        Expr.Leads.left_le) (by omega)
  | group index p ih =>
      rw [Expr.run, ih]
      constructor
      · rintro ⟨u, hu, hk⟩
        exact ⟨_, ⟨u, hu, rfl⟩, hk⟩
      · rintro ⟨t, ⟨u, hu, rfl⟩, hk⟩
        exact ⟨u, hu, hk⟩
  | notAhead p ih =>
      have hahead := ih some s
      simp only [Option.isSome_some, and_true] at hahead
      rw [Expr.run]
      cases hrun : p.run ignoreCase some s with
      | some found => simp [Expr.Leads, ← hahead, hrun]
      | none => simp [Expr.Leads, ← hahead, hrun]
  | start =>
      rw [Expr.run]
      cases hbefore : s.before.isNone with
      | true => simp [Expr.Leads, hbefore]
      | false => simp [Expr.Leads, hbefore]
  | stop =>
      rw [Expr.run]
      split
      · rename_i hrest
        simp [Expr.Leads, hrest]
      · rename_i hrest
        simp [Expr.Leads, hrest]
      · rename_i hempty hfeed
        constructor
        · exact fun hk => absurd hk Bool.false_ne_true
        · rintro ⟨_, ⟨rfl, hrest⟩, -⟩
          exact absurd hrest (not_or.2 ⟨hempty, hfeed⟩)
  | wordEdge =>
      rw [Expr.run]
      cases hedge : s.atWordEdge with
      | true => simp [Expr.Leads, hedge]
      | false => simp [Expr.Leads, hedge]

-- ============================================================= reading

/-- A spot that counts what follows it rightly. -/
def Spot.Counted (s : Spot) : Prop :=
  s.left = s.rest.length

/-- Parts of a text, each of them read by one repetition, `count` of which have
been made. The needed repetitions are made whatever the bound. -/
structure Parts (reads : List Char → Prop) (least : Nat) (most : Option Nat)
    (count : Nat) (parts : List (List Char)) : Prop where
  enough : least ≤ count + parts.length
  room : ∀ m ∈ most, count + parts.length ≤ max least m
  read : ∀ part ∈ parts, reads part

/-- The texts that an expression can read. Some expressions read nothing and
look around. -/
def Expr.Reads (ignoreCase : Bool) : Expr → List Char → Prop
  | .any, cs => ∃ c, cs = [c] ∧ (c != '\n') = true
  | .set negated items, cs =>
    ∃ c, cs = [c] ∧ ((items.any (SetItem.holds ignoreCase c)) != negated) = true
  | .seq p q, cs => ∃ a b, cs = a ++ b ∧ p.Reads ignoreCase a ∧
    q.Reads ignoreCase b
  | .alt p q, cs => p.Reads ignoreCase cs ∨ q.Reads ignoreCase cs
  | .repeated p least most, cs =>
    ∃ parts, cs = parts.flatten ∧ Parts (p.Reads ignoreCase) least most 0 parts
  | .group _ p, cs => p.Reads ignoreCase cs
  | _, cs => cs = []

/-- Whether an expression looks at nothing beside what it reads. -/
def Expr.isPlain : Expr → Bool
  | .empty | .any | .set _ _ => true
  | .seq p q | .alt p q => p.isPlain && q.isPlain
  | .repeated p _ _ | .group _ p => p.isPlain
  | .notAhead _ | .start | .stop | .wordEdge => false

theorem Takes.counted {test : Char → Bool} {s t : Spot} (h : Takes test s t)
    (hs : s.Counted) : t.Counted := by
  obtain ⟨c, rest, hrest, -, rfl⟩ := h
  have hleft : s.left = (c :: rest).length := hrest ▸ hs
  show s.left - 1 = rest.length
  rw [hleft, List.length_cons, Nat.add_sub_cancel]

theorem Repeats.counted {step : Spot → Spot → Prop}
    (hstep : ∀ s t, step s t → s.Counted → t.Counted) {least : Nat}
    {most : Option Nat} {count : Nat} {s t : Spot}
    (h : Repeats step least most count s t) (hs : s.Counted) : t.Counted := by
  induction h with
  | enough _ => exact hs
  | needed _ first _ ih => exact ih (hstep _ _ first hs)
  | further _ _ first _ _ ih => exact ih (hstep _ _ first hs)

/-- Expressions keep the count right. -/
theorem Expr.Leads.counted {ignoreCase : Bool} {e : Expr} {s t : Spot}
    (h : e.Leads ignoreCase s t) (hs : s.Counted) : t.Counted := by
  induction e generalizing s t with
  | empty => exact (h : t = s) ▸ hs
  | any => exact Takes.counted h hs
  | set negated items => exact Takes.counted h hs
  | seq p q ihp ihq =>
      obtain ⟨u, hp, hq⟩ := h
      exact ihq hq (ihp hp hs)
  | alt p q ihp ihq => exact h.elim (fun hp => ihp hp hs) fun hq => ihq hq hs
  | repeated p least most ih => exact Repeats.counted (fun _ _ => ih) h hs
  | group index p ih =>
      obtain ⟨u, hp, rfl⟩ := h
      exact (ih hp hs : u.Counted)
  | notAhead p _ => exact h.1 ▸ hs
  | start => exact h.1 ▸ hs
  | stop => exact h.1 ▸ hs
  | wordEdge => exact h.1 ▸ hs

theorem Takes.reads {test : Char → Bool} {s t : Spot} (h : Takes test s t) :
    ∃ cs, (∃ c, cs = [c] ∧ test c = true) ∧ s.rest = cs ++ t.rest := by
  obtain ⟨c, rest, hrest, htest, rfl⟩ := h
  exact ⟨[c], ⟨c, rfl, htest⟩, hrest⟩

theorem Parts.cons {reads : List Char → Prop} {least : Nat} {most : Option Nat}
    {count : Nat} {part : List Char} {parts : List (List Char)} :
    Parts reads least most count (part :: parts) ↔
      reads part ∧ Parts reads least most (count + 1) parts := by
  have hlength : count + (part :: parts).length = count + 1 + parts.length := by
    rw [List.length_cons]
    omega
  constructor
  · rintro ⟨henough, hroom, hread⟩
    rw [hlength] at henough hroom
    obtain ⟨hpart, hparts⟩ := List.forall_mem_cons.1 hread
    exact ⟨hpart, henough, hroom, hparts⟩
  · rintro ⟨hpart, henough, hroom, hparts⟩
    rw [← hlength] at henough hroom
    exact ⟨henough, hroom, List.forall_mem_cons.2 ⟨hpart, hparts⟩⟩

theorem Repeats.reads {step : Spot → Spot → Prop} {reads : List Char → Prop}
    (hstep : ∀ s t, step s t → ∃ cs, reads cs ∧ s.rest = cs ++ t.rest)
    {least : Nat} {most : Option Nat} {count : Nat} {s t : Spot}
    (h : Repeats step least most count s t)
    (hcount : ∀ m ∈ most, count ≤ max least m) :
    ∃ parts, s.rest = parts.flatten ++ t.rest ∧
      Parts reads least most count parts := by
  have hcons {count : Nat} {s t u : Spot} (first : step s t)
      (ih : ∃ parts, t.rest = parts.flatten ++ u.rest ∧
        Parts reads least most (count + 1) parts) :
      ∃ parts, s.rest = parts.flatten ++ u.rest ∧
        Parts reads least most count parts := by
    obtain ⟨cs, hcs, hrest⟩ := hstep s t first
    obtain ⟨parts, hparts, hread⟩ := ih
    refine ⟨cs :: parts, ?_, Parts.cons.2 ⟨hcs, hread⟩⟩
    rw [hrest, hparts, List.flatten_cons, List.append_assoc]
  induction h with
  | enough henough =>
      exact ⟨[], rfl, henough, hcount, fun _ h => absurd h List.not_mem_nil⟩
  | needed hneeded first _ ih =>
      exact hcons first (ih fun m _ =>
        Nat.le_trans hneeded (Nat.le_max_left least m))
  | further _ room first _ _ ih =>
      refine hcons first (ih fun m hm =>
        Nat.le_trans ?_ (Nat.le_max_right least m))
      exact Nat.succ_le_of_lt (by simpa [Option.mem_def.1 hm] using room)

/-- What lies between a spot and one to which an expression leads is read by
it. -/
theorem Expr.Leads.reads {ignoreCase : Bool} {e : Expr} {s t : Spot}
    (h : e.Leads ignoreCase s t) : ∃ cs, e.Reads ignoreCase cs ∧ s.rest = cs ++
      t.rest := by
  induction e generalizing s t with
  | empty => exact ⟨[], rfl, congrArg Spot.rest (h : t = s).symm⟩
  | any => exact Takes.reads h
  | set negated items => exact Takes.reads h
  | seq p q ihp ihq =>
      obtain ⟨u, hp, hq⟩ := h
      obtain ⟨a, ha, hs⟩ := ihp hp
      obtain ⟨b, hb, hu⟩ := ihq hq
      exact ⟨a ++ b, ⟨a, b, rfl, ha, hb⟩, by rw [hs, hu, List.append_assoc]⟩
  | alt p q ihp ihq =>
      rcases h with h | h
      · obtain ⟨cs, hcs, hs⟩ := ihp h
        exact ⟨cs, .inl hcs, hs⟩
      · obtain ⟨cs, hcs, hs⟩ := ihq h
        exact ⟨cs, .inr hcs, hs⟩
  | repeated p least most ih =>
      obtain ⟨parts, hs, hparts⟩ := Repeats.reads (fun _ _ => ih) h fun m _ =>
        Nat.zero_le _
      exact ⟨parts.flatten, ⟨parts, rfl, hparts⟩, hs⟩
  | group index p ih =>
      obtain ⟨u, hp, rfl⟩ := h
      obtain ⟨cs, hcs, hs⟩ := ih hp
      exact ⟨cs, hcs, hs⟩
  | notAhead p _ => exact ⟨[], rfl, congrArg Spot.rest h.1.symm⟩
  | start => exact ⟨[], rfl, congrArg Spot.rest h.1.symm⟩
  | stop => exact ⟨[], rfl, congrArg Spot.rest h.1.symm⟩
  | wordEdge => exact ⟨[], rfl, congrArg Spot.rest h.1.symm⟩

theorem exists_takes {test : Char → Bool} {c : Char} {rest : List Char}
    {s : Spot} (htest : test c = true) (hrest : s.rest = [c] ++ rest) :
    ∃ t, Takes test s t ∧ t.rest = rest :=
  ⟨s.advance c rest, ⟨c, rest, hrest, htest, rfl⟩, rfl⟩

/-- Parts that a step reads are passed by repetitions of it. Empty parts beyond
the needed ones are left out. -/
theorem exists_repeats {step : Spot → Spot → Prop} {reads : List Char → Prop}
    (hcounted : ∀ s t, step s t → s.Counted → t.Counted)
    (hstep : ∀ {cs rest s}, reads cs → s.Counted → s.rest = cs ++ rest →
      ∃ t, step s t ∧ t.rest = rest)
    {least : Nat} {most : Option Nat} {parts : List (List Char)} {count : Nat}
    {s : Spot} {rest : List Char} (hparts : Parts reads least most count parts)
    (hs : s.Counted) (hrest : s.rest = parts.flatten ++ rest) :
    ∃ t, Repeats step least most count s t ∧ t.rest = rest := by
  induction parts generalizing count s with
  | nil => exact ⟨s, .enough hparts.enough, hrest⟩
  | cons cs parts ih =>
      rw [List.flatten_cons, List.append_assoc] at hrest
      obtain ⟨hcs, hlater⟩ := Parts.cons.1 hparts
      by_cases hskip : cs = [] ∧ least ≤ count
      · obtain ⟨rfl, henough⟩ := hskip
        refine ih ⟨by omega, fun m hm => ?_, hlater.read⟩ hs hrest
        have := hlater.room m hm
        omega
      · obtain ⟨t, hfirst, ht⟩ := hstep hcs hs hrest
        have htcounted := hcounted s t hfirst hs
        obtain ⟨u, hreps, hu⟩ := ih hlater htcounted ht
        refine ⟨u, ?_, hu⟩
        by_cases hneeded : count < least
        · exact .needed hneeded hfirst hreps
        · have henough : least ≤ count := Nat.le_of_not_lt hneeded
          have hroom : most.any (· ≤ count) = false := by
            cases most with
            | none => rfl
            | some m =>
                have := hlater.room m rfl
                simp only [Option.any_some, decide_eq_false_iff_not]
                omega
          have hmoves : t.left < s.left := by
            have hlength : 0 < cs.length :=
              List.length_pos_iff.2 fun hempty => hskip ⟨hempty, henough⟩
            have hpassed : s.rest.length = cs.length + t.rest.length := by
              rw [hrest, ← ht, List.length_append]
            rw [htcounted, hs]
            omega
          exact .further henough hroom hfirst hmoves hreps

/-- An expression that looks at nothing else leads past whatever it reads. -/
theorem exists_leads_of_reads {ignoreCase : Bool} {e : Expr}
    (h : e.isPlain = true) {cs rest : List Char} {s : Spot}
    (hcs : e.Reads ignoreCase cs) (hs : s.Counted)
    (hrest : s.rest = cs ++ rest) : ∃ t, e.Leads ignoreCase s t ∧
      t.rest = rest := by
  induction e generalizing cs rest s with
  | empty =>
      obtain rfl : cs = [] := hcs
      exact ⟨s, rfl, hrest⟩
  | any =>
      obtain ⟨c, rfl, htest⟩ := hcs
      exact exists_takes htest hrest
  | set negated items =>
      obtain ⟨c, rfl, htest⟩ := hcs
      exact exists_takes htest hrest
  | seq p q ihp ihq =>
      obtain ⟨hp, hq⟩ := Bool.and_eq_true_iff.1 h
      obtain ⟨a, b, rfl, ha, hb⟩ := hcs
      rw [List.append_assoc] at hrest
      obtain ⟨u, hfirst, hu⟩ := ihp hp ha hs hrest
      obtain ⟨t, hsecond, ht⟩ := ihq hq hb (hfirst.counted hs) hu
      exact ⟨t, ⟨u, hfirst, hsecond⟩, ht⟩
  | alt p q ihp ihq =>
      obtain ⟨hp, hq⟩ := Bool.and_eq_true_iff.1 h
      rcases hcs with hcs | hcs
      · obtain ⟨t, hleft, ht⟩ := ihp hp hcs hs hrest
        exact ⟨t, .inl hleft, ht⟩
      · obtain ⟨t, hright, ht⟩ := ihq hq hcs hs hrest
        exact ⟨t, .inr hright, ht⟩
  | repeated p least most ih =>
      obtain ⟨parts, rfl, hparts⟩ := hcs
      exact exists_repeats (fun _ _ =>
        Expr.Leads.counted) (ih h) hparts hs hrest
  | group index p ih =>
      obtain ⟨u, hp, hu⟩ := ih h hcs hs hrest
      exact ⟨_, ⟨u, hp, rfl⟩, hu⟩
  | notAhead p _ => cases h
  | start => cases h
  | stop => cases h
  | wordEdge => cases h

-- ========================================================== occurrence

/-- The spot between two parts of a text. -/
def Spot.between (before rest : List Char) : Spot :=
  ⟨before.getLast?, rest, rest.length, []⟩

theorem matchAt_isSome_iff (p : Pattern) (before rest : List Char) :
    (p.matchAt (.between before rest)).isSome = true ↔
      ∃ t, p.expr.Leads p.ignoreCase (.between before rest) t := by
  rw [matchAt, Option.isSome_map, run_isSome_iff]
  simp [Spot.between]

/-- A search goes through all spots. -/
theorem searchFrom_isSome_iff (p : Pattern) (skipped : Nat)
    (before rest : List Char) :
    (p.searchFrom skipped rest.length (.between before rest)).isSome = true ↔
      ∃ lead tail, rest = lead ++ tail ∧
        ∃ t, p.expr.Leads p.ignoreCase (.between (before ++ lead) tail) t := by
  induction rest generalizing skipped before with
  | nil =>
      rw [List.length_nil, searchFrom, Option.isSome_map, matchAt_isSome_iff]
      constructor
      · rintro ⟨t, ht⟩
        exact ⟨[], [], rfl, t, by rwa [List.append_nil]⟩
      · rintro ⟨lead, tail, hnil, t, ht⟩
        obtain ⟨rfl, rfl⟩ := List.nil_eq_append_iff.1 hnil
        exact ⟨t, by rwa [List.append_nil] at ht⟩
  | cons c rest ih =>
      have hnext : (Spot.between before (c :: rest)).advance c rest
          = .between (before ++ [c]) rest := by
        simp [Spot.advance, Spot.between]
      have hstep :
        (p.searchFrom skipped (c :: rest).length
          (.between before (c :: rest))).isSome = true ↔
          (p.matchAt (.between before (c :: rest))).isSome = true ∨
            (p.searchFrom (skipped + 1) rest.length
              (.between (before ++ [c]) rest)).isSome
              = true := by
        rw [List.length_cons, searchFrom, ← hnext]
        cases p.matchAt (.between before (c :: rest)) with
        | none => simp [Spot.between]
        | some found => simp
      rw [hstep, matchAt_isSome_iff, ih]
      constructor
      · rintro (⟨t, ht⟩ | ⟨lead, tail, rfl, t, ht⟩)
        · exact ⟨[], c :: rest, rfl, t, by rwa [List.append_nil]⟩
        · exact ⟨c :: lead, tail, rfl, t, by simpa using ht⟩
      · rintro ⟨lead, tail, hsplit, t, ht⟩
        cases lead with
        | nil =>
            obtain rfl : c :: rest = tail := hsplit
            exact .inl ⟨t, by rwa [List.append_nil] at ht⟩
        | cons d lead =>
            obtain ⟨rfl, rfl⟩ := List.cons.inj hsplit
            exact .inr ⟨lead, tail, rfl, t, by simpa using ht⟩

/-- A pattern occurs in a text just if it leads somewhere from some spot of
it. -/
theorem occursIn_iff (p : Pattern) (text : String) :
    p.occursIn text = true ↔
      ∃ before rest, text.toList = before ++ rest ∧
        ∃ t, p.expr.Leads p.ignoreCase (.between before rest) t :=
  searchFrom_isSome_iff p 0 [] text.toList

/-- A pattern that looks at nothing beside what it reads occurs in a text just
if the text has a part that it reads. -/
theorem occursIn_iff_reads {p : Pattern} (h : p.expr.isPlain = true)
    (text : String) :
    p.occursIn text = true ↔ ∃ part, p.expr.Reads p.ignoreCase part ∧
      part <:+: text.toList := by
  rw [occursIn_iff]
  constructor
  · rintro ⟨before, rest, htext, t, ht⟩
    obtain ⟨part, hpart, hrest⟩ := ht.reads
    refine ⟨part, hpart, before, t.rest, ?_⟩
    rw [htext, List.append_assoc]
    exact congrArg _ hrest.symm
  · rintro ⟨part, hpart, before, after, htext⟩
    refine ⟨before, part ++ after, by rw [← htext, List.append_assoc], ?_⟩
    obtain ⟨t, ht, -⟩ := exists_leads_of_reads h hpart
      (s := .between before (part ++ after)) rfl rfl
    exact ⟨t, ht⟩

end SourceAudit.Pattern
