/-
Which values a shape takes.

They are described on their own, by rules that speak of no problems and no
places (`Accepts`), and fitting a value succeeds just for those
(`isOk_fit_iff`). What a shape with fields takes can then be read off column by
column (`accepts_record_iff`).
-/
import SourceAudit.Proofs.Schema.Fitting

namespace SourceAudit.Schema

-- ========================================================== acceptance

/-- Whether a value can be written out as a text. -/
def isPlain : Value → Bool
  | .text _ | .int _ | .real _ | .bool _ => true
  | _ => false

/-- Entries by the texts of their keys. -/
def byName (es : List (Value × Value)) : List (String × Value) :=
  es.map fun e => (e.1.shown, e.2)

/-- The values a shape takes. -/
inductive Accepts : Shape → Value → Prop
  | anything (v : Value) : Accepts .anything v
  | text {v : Value} (h : isPlain v = true) : Accepts .text v
  | whole {least most : Option Int} {v : Value} {n : Int}
    (hn : wholeOf? v = some n)
      (hleast : ∀ k ∈ least, k ≤ n) (hmost : ∀ k ∈ most, n ≤ k) :
      Accepts (.whole least most) v
  | real (x : Float) : Accepts .real (.real x)
  | realText {s : String} (h : (Text.decimal? s).isSome = true) :
  Accepts .real (.text s)
  | realWhole {v : Value} (h : v.asWhole?.isSome = true) : Accepts .real v
  | switch {v : Value} (h : (fitSwitch v).isOk = true) : Accepts .switch v
  | moment {v : Value} (h : (fitMoment v).isOk = true) : Accepts .moment v
  | choice {words : List String} {s : String} (h : s ∈ words) :
  Accepts (.choice words) (.text s)
  | list {item : Shape} {items : List Value} (h : ∀ v ∈ items, Accepts item v) :
      Accepts (.list item) (.list items)
  | table {value : Shape} {v : Value} {es : List (Value × Value)}
    (hes : entriesOf v = some es)
      (hkeys : ∀ e ∈ es, isPlain e.1 = true)
      (hvalues : ∀ e ∈ es, Accepts value e.2) :
      Accepts (.table value) v
  | pairs {v : Value} (h : (entriesOf v).isSome = true) : Accepts .pairs v
  | absent (inner : Shape) : Accepts (.optional inner) .null
  | present {inner : Shape} {v : Value} (h : Accepts inner v) :
  Accepts (.optional inner) v
  | fields {shapes : List (String × Shape × Option Value)} {v : Value}
      {es : List (Value × Value)} (hes : entriesOf v = some es)
      (hgiven : ∀ f ∈ shapes, ∀ x, Value.lookup f.1 (byName es) = some x →
        Accepts f.2.1 x)
      (hopen : ∀ f ∈ shapes, Value.lookup f.1 (byName es) = none →
        f.2.2.isSome = true) :
      Accepts (.fields shapes) v

/-- What a field takes: a value of its shape, or nothing if there is a value it
has then. -/
def Takes (f : String × Shape × Option Value) : Option Value → Prop
  | some v => Accepts f.2.1 v
  | none => f.2.2.isSome = true

theorem accepts_fields_iff {shapes : List (String × Shape × Option Value)}
    {v : Value} :
    Accepts (.fields shapes) v ↔
      ∃ es, entriesOf v = some es ∧ ∀ f ∈ shapes,
        Takes f (Value.lookup f.1 (byName es)) := by
  constructor
  · intro h
    cases h with
    | fields hes hgiven hopen =>
        refine ⟨_, hes, fun f hf => ?_⟩
        cases hlookup : Value.lookup f.1 (byName _) with
        | none => exact hopen f hf hlookup
        | some x => exact hgiven f hf x hlookup
  · rintro ⟨es, hes, htakes⟩
    refine .fields hes (fun f hf x hx => ?_) fun f hf hnone => ?_
    · simpa only [hx, Takes] using htakes f hf
    · simpa only [hnone, Takes] using htakes f hf

theorem byName_texts (fs : List (String × Value)) :
    byName (fs.map fun f => (Value.text f.1, f.2)) = fs := by
  rw [byName, List.map_map]
  exact List.map_id'' (fun _ => rfl) fs

/-- A record is taken if its fields are. -/
theorem accepts_record_iff {shapes : List (String × Shape × Option Value)}
    {fs : List (String × Value)} :
    Accepts (.fields shapes) (.record fs) ↔ ∀ f ∈ shapes,
      Takes f (Value.lookup f.1 fs) := by
  rw [accepts_fields_iff]
  constructor
  · rintro ⟨es, ⟨⟩, htakes⟩
    simpa only [byName_texts] using htakes
  · intro htakes
    exact ⟨_, rfl, by simpa only [byName_texts] using htakes⟩

-- ============================================================= success

@[simp] theorem isOk_ok {α : Type} (a : α) :
    (.ok a : Fitted α).isOk = true := rfl

@[simp] theorem isOk_problem {α : Type} (kind : String) :
    (problem kind : Fitted α).isOk = false := rfl

@[simp] theorem isOk_within {α : Type} (place : Place) (r : Fitted α) :
    (within place r).isOk = r.isOk := by
  cases r <;> rfl

@[simp] theorem isOk_both {α β γ : Type} (f : α → β → γ) (a : Fitted α)
    (b : Fitted β) : (both f a b).isOk = (a.isOk && b.isOk) := by
  cases a <;> cases b <;> rfl

@[simp] theorem isOk_map {α β : Type} (f : α → β) (r : Fitted α) :
    (f <$> r).isOk = r.isOk := by
  cases r <;> rfl

@[simp] theorem isOk_fitKey (key : Value) :
    (fitKey key).isOk = isPlain key := by
  cases key <;> rfl

theorem accepts_whole_iff {least most : Option Int} {v : Value} :
    Accepts (.whole least most) v ↔
      ∃ n, wholeOf? v = some n ∧ (∀ k ∈ least, k ≤ n) ∧ ∀ k ∈ most, n ≤ k := by
  constructor
  · intro h
    cases h with
    | whole hn hleast hmost => exact ⟨_, hn, hleast, hmost⟩
  · rintro ⟨n, hn, hleast, hmost⟩
    exact .whole hn hleast hmost

theorem isOk_fitWhole (least most : Option Int) (v : Value) :
    (fitWhole least most v).isOk = true ↔ Accepts (.whole least most) v := by
  have hbound (p : Int → Bool) (bound : Option Int) :
      ¬bound.any p = true ↔ ∀ k ∈ bound, ¬p k = true := by
    cases bound <;> simp
  rw [accepts_whole_iff]
  unfold fitWhole
  cases wholeOf? v with
  | none => simp
  | some n =>
      simp only [Option.some.injEq, exists_eq_left']
      split
      · rename_i hleast
        refine iff_of_false Bool.false_ne_true fun h =>
          (hbound _ _).2 (fun k hk => ?_) hleast
        simpa using h.1 k hk
      · rename_i hleast
        split
        · rename_i hmost
          refine iff_of_false Bool.false_ne_true fun h =>
            (hbound _ _).2 (fun k hk => ?_) hmost
          simpa using h.2 k hk
        · rename_i hmost
          refine iff_of_true rfl ⟨fun k hk => ?_, fun k hk => ?_⟩
          · simpa using (hbound _ _).1 hleast k hk
          · simpa using (hbound _ _).1 hmost k hk

theorem isOk_fitReal (v : Value) : (fitReal v).isOk = true ↔
    Accepts .real v := by
  cases v with
  | real x => exact iff_of_true rfl (.real x)
  | int n => exact iff_of_true rfl (.realWhole rfl)
  | bool b => exact iff_of_true rfl (.realWhole rfl)
  | text s =>
      have hiff : Accepts .real (.text s) ↔
          (Text.decimal? s).isSome = true := by
        constructor
        · intro h
          cases h with
          | realText h => exact h
          | realWhole h => cases h
        · exact .realText
      rw [hiff]
      unfold fitReal
      dsimp only
      cases Text.decimal? s <;> simp
  | null | date _ | list _ | record _ =>
      refine iff_of_false Bool.false_ne_true fun h => ?_
      cases h with
      | realWhole h => cases h

theorem isOk_fitChoice (words : List String) (v : Value) :
    (fitChoice words v).isOk = true ↔ Accepts (.choice words) v := by
  cases v with
  | text s =>
      have hiff : Accepts (.choice words) (.text s) ↔ s ∈ words := by
        constructor
        · intro h
          cases h with
          | choice h => exact h
        · exact .choice
      rw [hiff]
      by_cases h : s ∈ words <;> simp [fitChoice, Value.asText?, h]
  | null | bool _ | int _ | real _ | date _ | list _ | record _ =>
      exact iff_of_false Bool.false_ne_true nofun

theorem isOk_fitItems (fit : Value → Fitted Value) (start : Nat)
    (items : List Value) :
    (fitItems fit start items).isOk = true ↔
      ∀ v ∈ items, (fit v).isOk = true := by
  induction items generalizing start with
  | nil => simp [fitItems]
  | cons v rest ih => simp [fitItems, ih]

theorem isOk_fitEntries (fit : Value → Fitted Value)
    (es : List (Value × Value)) :
    (fitEntries fit es).isOk = true ↔
      (∀ e ∈ es, isPlain e.1 = true) ∧ ∀ e ∈ es, (fit e.2).isOk = true := by
  induction es with
  | nil => simp [fitEntries]
  | cons e rest ih =>
      rw [fitEntries]
      simp only [isOk_both, isOk_within, Bool.and_eq_true, ih, isOk_fitKey,
        List.forall_mem_cons]
      exact and_and_and_comm

theorem isOk_fitFields (shapes : List (String × Shape × Option Value))
    (given : List (String × Value)) :
    (fitFields shapes given).isOk = true ↔ ∀ f ∈ shapes,
      match Value.lookup f.1 given with
      | some v => (fit f.2.1 v).isOk = true
      | none => f.2.2.isSome = true := by
  induction shapes with
  | nil => simp [fitFields]
  | cons f rest ih =>
      obtain ⟨name, shape, usual⟩ := f
      unfold fitFields
      rw [isOk_both, Bool.and_eq_true, ih, List.forall_mem_cons]
      refine and_congr_left' ?_
      cases Value.lookup name given with
      | some v => simp
      | none => cases usual <;> simp

-- ============================================================= fitting

/-- Shapes are built from the shapes in them. -/
@[elab_as_elim]
theorem Shape.ind {motive : Shape → Prop} (anything : motive .anything)
    (text : motive .text) (whole : ∀ least most, motive (.whole least most))
    (real : motive .real) (switch : motive .switch) (moment : motive .moment)
    (choice : ∀ words, motive (.choice words))
    (list : ∀ item, motive item → motive (.list item))
    (table : ∀ value, motive value → motive (.table value))
    (pairs : motive .pairs)
    (optional : ∀ inner, motive inner → motive (.optional inner))
    (fields : ∀ shapes, (∀ f ∈ shapes, motive f.2.1) → motive (.fields shapes))
    (s : Shape) : motive s :=
  @Shape.rec motive (fun shapes => ∀ f ∈ shapes, motive f.2.1) (fun f =>
    motive f.2.1)
    (fun f => motive f.1)
    anything text whole real switch moment choice list table pairs
      optional fields
    (fun _ h => absurd h List.not_mem_nil)
    (fun _ _ hfirst hrest => List.forall_mem_cons.2 ⟨hfirst, hrest⟩)
    (fun _ _ h => h) (fun _ _ h => h) s

theorem fit_list (item : Shape) (items : List Value) :
    fit (.list item)
      (.list items) = Value.list <$> fitItems (fit item) 0 items := rfl

/-- What has entries is fitted entry by entry. -/
theorem fit_table {v : Value} {es : List (Value × Value)}
    (h : entriesOf v = some es) (value : Shape) :
    fit (.table value) v
      = (fun fs => Value.record (Value.putAll [] fs)) <$> fitEntries
        (fit value) es := by
  cases v with
  | record fs | list items | text s => unfold fit; simp [h, Value.same]
  | null | bool _ | int _ | real _ | date _ => cases h

theorem fit_pairs {v : Value} {es : List (Value × Value)}
    (h : entriesOf v = some es) :
    fit .pairs v = .ok (.record (Value.putAll [] (byName es))) := by
  cases v with
  | record fs | list items | text s => unfold fit; simp [h, Value.same]; rfl
  | null | bool _ | int _ | real _ | date _ => cases h

theorem fit_named {v : Value} {es : List (Value × Value)}
    (h : entriesOf v = some es)
    (shapes : List (String × Shape × Option Value)) :
    fit (.fields shapes) v = Value.record <$> fitFields shapes (byName es) := by
  cases v with
  | record fs | list items | text s => unfold fit; simp [h, Value.same]; rfl
  | null | bool _ | int _ | real _ | date _ => cases h

/-- What has no entries fits no shape that asks for them. -/
theorem isOk_fit_of_noEntries {v : Value} (h : entriesOf v = none) :
    (∀ value, (fit (.table value) v).isOk = false) ∧
      (fit .pairs v).isOk = false ∧
      ∀ shapes, (fit (.fields shapes) v).isOk = false := by
  cases v with
  | record fs => cases h
  | list items | text s =>
      refine ⟨fun value => ?_, ?_, fun shapes => ?_⟩ <;> unfold fit <;>
        simp [h, Value.same]
  | null | bool _ | int _ | real _ | date _ =>
      exact ⟨fun _ => rfl, rfl, fun _ => rfl⟩

/-- Fitting succeeds just for the values a shape takes. -/
theorem isOk_fit_iff (s : Shape) (v : Value) : (fit s v).isOk = true ↔
    Accepts s v := by
  induction s using Shape.ind generalizing v with
  | anything => exact iff_of_true rfl (.anything v)
  | text =>
      have hfit : (fit .text v).isOk = isPlain v := by cases v <;> rfl
      rw [hfit]
      exact ⟨.text, fun h => by cases h with | text h => exact h⟩
  | whole least most =>
      have hfit : (fit (.whole least most) v).isOk
          = (fitWhole least most v).isOk := by
        cases v <;> rfl
      rw [hfit, isOk_fitWhole]
  | real =>
      have hfit : (fit .real v).isOk = (fitReal v).isOk := by cases v <;> rfl
      rw [hfit, isOk_fitReal]
  | switch =>
      have hfit : (fit .switch v).isOk = (fitSwitch v).isOk := by
        cases v <;> rfl
      rw [hfit]
      exact ⟨.switch, fun h => by cases h with | switch h => exact h⟩
  | moment =>
      have hfit : (fit .moment v).isOk = (fitMoment v).isOk := by
        cases v <;> rfl
      rw [hfit]
      exact ⟨.moment, fun h => by cases h with | moment h => exact h⟩
  | choice words =>
      have hfit : (fit (.choice words) v).isOk = (fitChoice words v).isOk := by
        cases v <;> rfl
      rw [hfit, isOk_fitChoice]
  | list item ih =>
      cases v with
      | list items =>
          rw [fit_list, isOk_map, isOk_fitItems]
          simp only [ih]
          exact ⟨.list, fun h => by cases h with | list h => exact h⟩
      | null | bool _ | int _ | real _ | text _ | date _ | record _ =>
          exact iff_of_false Bool.false_ne_true nofun
  | table value ih =>
      cases hes : entriesOf v with
      | none =>
          rw [(isOk_fit_of_noEntries hes).1]
          refine iff_of_false Bool.false_ne_true fun h => ?_
          cases h with
          | table hsome _ _ => cases hes.symm.trans hsome
      | some es =>
          rw [fit_table hes, isOk_map, isOk_fitEntries]
          simp only [ih]
          refine ⟨fun h => .table hes h.1 h.2, fun h => ?_⟩
          cases h with
          | table hsome hkeys hvalues =>
              obtain rfl := Option.some.inj (hes.symm.trans hsome)
              exact ⟨hkeys, hvalues⟩
  | pairs =>
      cases hes : entriesOf v with
      | none =>
          rw [(isOk_fit_of_noEntries hes).2.1]
          refine iff_of_false Bool.false_ne_true fun h => ?_
          cases h with
          | pairs hsome =>
              rw [hes] at hsome
              cases hsome
      | some es =>
          rw [fit_pairs hes]
          exact iff_of_true rfl (.pairs (by rw [hes]; rfl))
  | optional inner ih =>
      by_cases hnull : v = .null
      · subst hnull
        exact iff_of_true rfl (.absent inner)
      · have hfit : fit (.optional inner) v = fit inner v := by
          cases v with
          | null => exact absurd rfl hnull
          | bool _ | int _ | real _ | text _ | date _ | list _ | record _ => rfl
        rw [hfit, ih]
        refine ⟨.present, fun h => ?_⟩
        cases h with
        | absent => exact absurd rfl hnull
        | present h => exact h
  | fields shapes ih =>
      rw [accepts_fields_iff]
      cases hes : entriesOf v with
      | none =>
          rw [(isOk_fit_of_noEntries hes).2.2]
          simp
      | some es =>
          rw [fit_named hes, isOk_map, isOk_fitFields]
          simp only [Option.some.injEq, exists_eq_left']
          refine forall₂_congr fun f hf => ?_
          cases Value.lookup f.1 (byName es) with
          | none => exact Iff.rfl
          | some x => exact ih f hf x

theorem accepts_of_fit {s : Shape} {v v' : Value} (h : fit s v = .ok v') :
    Accepts s v :=
  (isOk_fit_iff s v).1 (by rw [h]; rfl)

theorem Accepts.exists_fit {s : Shape} {v : Value} (h : Accepts s v) :
    ∃ v', fit s v = .ok v' := by
  have hok := (isOk_fit_iff s v).2 h
  cases hfit : fit s v with
  | ok v' => exact ⟨v', rfl⟩
  | error problems =>
      rw [hfit] at hok
      cases hok

end SourceAudit.Schema
