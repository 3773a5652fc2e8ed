/-
What has been made to fit fits as it is.

Fitting changes values: numbers are read from text, entries without a name are
left out, open fields are filled in. It does so once and for all. Where no name
is given to two fields and the values that open fields get fit themselves
(`WellMade`), a value that has been made to fit is not changed by fitting it
again (`fit_of_fit`), and so messages can be made of messages.
-/
import SourceAudit.Proofs.Schema.Acceptance
import SourceAudit.Proofs.Value.Json.RoundTrip

namespace SourceAudit

-- ============================================================== fields

namespace Value

/-- Where no name comes twice, a field is found under its name. -/
theorem lookup_of_mem {fields : List (String × Value)}
    (h : (fields.map Prod.fst).Nodup) {f : String × Value} (hf : f ∈ fields) :
    lookup f.1 fields = some f.2 := by
  induction fields with
  | nil => cases hf
  | cons first rest ih =>
      rw [List.map_cons, List.nodup_cons] at h
      rw [lookup]
      rcases List.mem_cons.1 hf with rfl | hf
      · rw [if_pos (beq_self_eq_true _)]
      · have hne : first.1 ≠ f.1 :=
          fun hsame => h.1 (hsame ▸ List.mem_map_of_mem hf)
        rw [if_neg (by simpa using hne), ih h.2 hf]

/-- Setting a field brings in its name and no other. -/
theorem mem_keys_put {name key : String} {v : Value}
    {fields : List (String × Value)} :
    key ∈ (put name v fields).map Prod.fst ↔
      key = name ∨ key ∈ fields.map Prod.fst := by
  induction fields with
  | nil => simp [put]
  | cons f rest ih =>
      obtain ⟨first, old⟩ := f
      rw [put]
      split
      · rename_i hfirst
        obtain rfl : first = name := by simpa using hfirst
        simp
      · rw [List.map_cons, List.mem_cons, ih, List.map_cons, List.mem_cons]
        exact or_left_comm

theorem nodup_keys_put {fields : List (String × Value)}
    (h : (fields.map Prod.fst).Nodup) (name : String) (v : Value) :
    ((put name v fields).map Prod.fst).Nodup := by
  induction fields with
  | nil => simp [put]
  | cons f rest ih =>
      obtain ⟨first, old⟩ := f
      rw [List.map_cons, List.nodup_cons] at h
      rw [put]
      split
      · simpa using h
      · rename_i hfirst
        rw [List.map_cons, List.nodup_cons, mem_keys_put, not_or]
        exact ⟨⟨by simpa using hfirst, h.1⟩, ih h.2⟩

theorem forall_mem_put {P : String × Value → Prop}
    {fields : List (String × Value)} (h : ∀ f ∈ fields, P f) {name : String}
    {v : Value} (hv : P (name, v)) : ∀ f ∈ put name v fields, P f := by
  induction fields with
  | nil => simpa [put] using hv
  | cons f rest ih =>
      obtain ⟨first, old⟩ := f
      rw [List.forall_mem_cons] at h
      rw [put]
      split
      · rename_i hfirst
        obtain rfl : first = name := by simpa using hfirst
        exact List.forall_mem_cons.2 ⟨hv, h.2⟩
      · exact List.forall_mem_cons.2 ⟨h.1, ih h.2⟩

/-- Fields that are set one after another have names of their own. -/
theorem nodup_keys_putAll (changes : List (String × Value)) :
    ((putAll [] changes).map Prod.fst).Nodup := by
  have hfrom (done : List (String × Value)) (h : (done.map Prod.fst).Nodup) :
      ((putAll done changes).map Prod.fst).Nodup := by
    induction changes generalizing done with
    | nil => exact h
    | cons change rest ih => exact ih _ (nodup_keys_put h change.1 change.2)
  exact hfrom [] List.nodup_nil

theorem forall_mem_putAll {P : String × Value → Prop}
    {fields changes : List (String × Value)} (h : ∀ f ∈ fields, P f)
    (hchanges : ∀ f ∈ changes, P f) : ∀ f ∈ putAll fields changes, P f := by
  induction changes generalizing fields with
  | nil => exact h
  | cons change rest ih =>
      rw [List.forall_mem_cons] at hchanges
      exact ih (forall_mem_put h hchanges.1) hchanges.2

/-- Setting the fields that were set once more gives the same fields. -/
theorem putAll_putAll (changes : List (String × Value)) :
    putAll [] (putAll [] changes) = putAll [] changes :=
  Json.putAll_of_nodup (nodup_keys_putAll changes)

end Value

namespace Schema

-- ==================================================== well-made shapes

/-- Shapes that hold no other shapes. -/
def Shape.isScalar : Shape → Bool
  | .list _ | .table _ | .optional _ | .fields _ => false
  | _ => true

/-- A shape whose fields have names of their own and whose open fields get
values that fit. -/
inductive WellMade : Shape → Prop
  | scalar {s : Shape} (h : s.isScalar = true) : WellMade s
  | list {item : Shape} (h : WellMade item) : WellMade (.list item)
  | table {value : Shape} (h : WellMade value) : WellMade (.table value)
  | optional {inner : Shape} (h : WellMade inner) : WellMade (.optional inner)
  | fields {shapes : List (String × Shape × Option Value)}
      (hnames : (shapes.map Prod.fst).Nodup)
      (hshapes : ∀ f ∈ shapes, WellMade f.2.1)
      (husual : ∀ f ∈ shapes, ∀ v ∈ f.2.2, fit f.2.1 v = .ok v) :
      WellMade (.fields shapes)

-- =============================================================== parts

theorem within_eq_ok {α : Type} {place : Place} {r : Fitted α} {a : α} :
    within place r = .ok a ↔ r = .ok a := by
  cases r <;> simp [within, Except.mapError]

theorem both_eq_ok {α β γ : Type} {f : α → β → γ} {a : Fitted α}
    {b : Fitted β} {c : γ} :
    both f a b = .ok c ↔ ∃ x y, a = .ok x ∧ b = .ok y ∧ f x y = c := by
  cases a <;> cases b <;> simp [both]

theorem map_eq_ok {α β : Type} {f : α → β} {r : Fitted α} {b : β} :
    f <$> r = .ok b ↔ ∃ a, r = .ok a ∧ f a = b := by
  cases r <;> simp [Functor.map, Except.map]

theorem entriesOf_record (fs : List (String × Value)) :
    entriesOf (.record fs) = some (fs.map fun f => (Value.text f.1, f.2)) := rfl

variable {s : Shape} {v v' : Value}

-- ============================================================= scalars

/-- Each scalar is brought to one kind of value, which is not changed any
more. -/
theorem fitText_eq_ok (h : fitText v = .ok v') : ∃ t, v' = .text t := by
  cases v with
  | text t => exact ⟨t, (Except.ok.inj h).symm⟩
  | int _ | real _ | bool _ => exact ⟨_, (Except.ok.inj h).symm⟩
  | null | date _ | list _ | record _ => cases h

theorem fitWhole_eq_ok {least most : Option Int}
    (h : fitWhole least most v = .ok v') :
    ∃ n, v' = .int n ∧ fitWhole least most (.int n) = .ok (.int n) := by
  unfold fitWhole at h
  cases hn : wholeOf? v with
  | none =>
      rw [hn] at h
      cases h
  | some n =>
      rw [hn] at h
      dsimp only at h
      split at h
      · cases h
      · split at h
        · cases h
        · rename_i hleast hmost
          obtain rfl := Except.ok.inj h
          have hsame : wholeOf? (.int n) = some n := rfl
          refine ⟨n, rfl, ?_⟩
          unfold fitWhole
          rw [hsame]
          dsimp only
          rw [if_neg hleast, if_neg hmost]

theorem fitReal_eq_ok (h : fitReal v = .ok v') : ∃ x, v' = .real x := by
  cases v with
  | real x => exact ⟨x, (Except.ok.inj h).symm⟩
  | int _ | bool _ => exact ⟨_, (Except.ok.inj h).symm⟩
  | text s =>
      unfold fitReal at h
      dsimp only at h
      split at h
      · exact ⟨_, (Except.ok.inj h).symm⟩
      · cases h
  | null | date _ | list _ | record _ => cases h

theorem fitSwitch_eq_ok (h : fitSwitch v = .ok v') : ∃ b, v' = .bool b := by
  cases v with
  | bool b => exact ⟨b, (Except.ok.inj h).symm⟩
  | null | int _ | real _ | text _ | date _ | list _ | record _ =>
      unfold fitSwitch at h
      dsimp only at h
      split at h
      · exact ⟨_, (Except.ok.inj h).symm⟩
      · split at h
        · exact ⟨_, (Except.ok.inj h).symm⟩
        · cases h

theorem momentOfSeconds_eq_ok {x : Float} (h : momentOfSeconds x = .ok v') :
    ∃ iso, v' = .date iso := by
  unfold momentOfSeconds at h
  split at h
  · exact ⟨_, (Except.ok.inj h).symm⟩
  · split at h
    · exact ⟨_, (Except.ok.inj h).symm⟩
    · split at h
      · exact ⟨_, (Except.ok.inj h).symm⟩
      · cases h

theorem momentText_eq_ok {s : String} (h : momentText s = .ok v') :
    ∃ iso, v' = .date iso := by
  have hdate {valid : Bool} {iso : String}
      (h : (if valid then .ok (.date iso) else problem "value_error.datetime")
        = .ok v') :
      ∃ iso, v' = .date iso := by
    cases valid with
    | true => exact ⟨iso, (Except.ok.inj h).symm⟩
    | false => cases h
  unfold momentText at h
  cases hfound : momentForm.search s with
  | none =>
      rw [hfound] at h
      cases h
  | some found =>
      rw [hfound] at h
      dsimp only at h
      cases hzone : found.group? 8 with
      | none =>
          rw [hzone] at h
          exact hdate h
      | some z =>
          rw [hzone] at h
          dsimp only at h
          cases hoffset : zoneText z with
          | none =>
              rw [hoffset] at h
              cases h
          | some offset =>
              rw [hoffset] at h
              exact hdate h

theorem fitMoment_eq_ok (h : fitMoment v = .ok v') : ∃ iso, v' = .date iso := by
  cases v with
  | date iso => exact ⟨iso, (Except.ok.inj h).symm⟩
  | real x => exact momentOfSeconds_eq_ok h
  | int _ | bool _ => exact momentOfSeconds_eq_ok h
  | text s =>
      unfold fitMoment at h
      dsimp only at h
      split at h
      · exact momentOfSeconds_eq_ok h
      · exact momentText_eq_ok h
  | null | list _ | record _ => cases h

theorem fitChoice_eq_ok {words : List String} (h : fitChoice words v = .ok v') :
    v' = v := by
  unfold fitChoice at h
  split at h
  · exact (Except.ok.inj h).symm
  · cases h

/-- A scalar other than absence is fitted by its kind. -/
theorem fit_scalar (h : v ≠ .null) :
    fit .text v = fitText v ∧
      (∀ least most, fit (.whole least most) v = fitWhole least most v) ∧
      fit .real v = fitReal v ∧ fit .switch v = fitSwitch v ∧
      fit .moment v = fitMoment v ∧
      ∀ words, fit (.choice words) v = fitChoice words v := by
  cases v with
  | null => exact absurd rfl h
  | bool _ | int _ | real _ | text _ | date _ | list _ | record _ =>
      exact ⟨rfl, fun _ _ => rfl, rfl, rfl, rfl, fun _ => rfl⟩

theorem fit_of_fit_scalar (hs : s.isScalar = true) (h : fit s v = .ok v') :
    fit s v' = .ok v' := by
  by_cases hnull : v = .null
  · subst hnull
    cases s with
    | anything => rfl
    | list _ | table _ | optional _ | fields _ => cases hs
    | text | whole _ _ | real | switch | moment | choice _ | pairs => cases h
  obtain ⟨htext, hwhole, hreal, hswitch, hmoment, hchoice⟩ := fit_scalar hnull
  cases s with
  | anything => rfl
  | text =>
      obtain ⟨t, rfl⟩ := fitText_eq_ok (htext ▸ h)
      rfl
  | whole least most =>
      obtain ⟨n, rfl, hn⟩ := fitWhole_eq_ok (hwhole least most ▸ h)
      exact hn
  | real =>
      obtain ⟨x, rfl⟩ := fitReal_eq_ok (hreal ▸ h)
      rfl
  | switch =>
      obtain ⟨b, rfl⟩ := fitSwitch_eq_ok (hswitch ▸ h)
      rfl
  | moment =>
      obtain ⟨iso, rfl⟩ := fitMoment_eq_ok (hmoment ▸ h)
      rfl
  | choice words =>
      obtain rfl := fitChoice_eq_ok (hchoice words ▸ h)
      exact h
  | pairs =>
      obtain ⟨es, hes⟩ : ∃ es, entriesOf v = some es := by
        cases accepts_of_fit h with
        | pairs hes => exact Option.isSome_iff_exists.1 hes
      rw [fit_pairs hes] at h
      obtain rfl := Except.ok.inj h
      rw [fit_pairs (entriesOf_record _), byName_texts, Value.putAll_putAll]
  | list _ | table _ | optional _ | fields _ => cases hs

-- =============================================================== items

/-- Fitted items fit. -/
theorem forall_mem_fitItems {f : Value → Fitted Value}
    (hf : ∀ v v', f v = .ok v' → f v' = .ok v') {items items' : List Value}
    {start : Nat} (h : fitItems f start items = .ok items') :
    ∀ v ∈ items', f v = .ok v := by
  induction items generalizing start items' with
  | nil =>
      cases h
      exact fun _ hv => absurd hv List.not_mem_nil
  | cons v rest ih =>
      obtain ⟨v', rest', hv, hrest, rfl⟩ := both_eq_ok.1 h
      exact List.forall_mem_cons.2 ⟨hf v v' (within_eq_ok.1 hv), ih hrest⟩

/-- Items that fit are fitted as they are. -/
theorem fit_list_of_forall {item : Shape} {items : List Value}
    (h : ∀ v ∈ items, fit item v = .ok v) : fit (.list item) (.list items)
      = .ok (.list items) := by
  have hitems (start : Nat) : fitItems (fit item) start items = .ok items := by
    induction items generalizing start with
    | nil => rfl
    | cons v rest ih =>
        rw [List.forall_mem_cons] at h
        rw [fitItems, h.1, ih h.2, within_ok]
        rfl
  rw [fit_list, hitems]
  rfl

/-- The values of fitted entries fit. -/
theorem forall_mem_fitEntries {f : Value → Fitted Value}
    (hf : ∀ v v', f v = .ok v' → f v' = .ok v') {es : List (Value × Value)}
    {fs : List (String × Value)} (h : fitEntries f es = .ok fs) :
    ∀ e ∈ fs, f e.2 = .ok e.2 := by
  induction es generalizing fs with
  | nil =>
      cases h
      exact fun _ he => absurd he List.not_mem_nil
  | cons e rest ih =>
      obtain ⟨first, rest', hfirst, hrest, rfl⟩ := both_eq_ok.1 h
      obtain ⟨key, v', -, hv, rfl⟩ := both_eq_ok.1 hfirst
      exact List.forall_mem_cons.2 ⟨hf _ _ (within_eq_ok.1 hv), ih hrest⟩

/-- A record whose values fit is a table as it is. -/
theorem fit_table_of_forall {value : Shape} {fs : List (String × Value)}
    (hkeys : (fs.map Prod.fst).Nodup) (h : ∀ e ∈ fs, fit value e.2 = .ok e.2) :
    fit (.table value) (.record fs) = .ok (.record fs) := by
  have hentries : fitEntries (fit value) (fs.map fun e => (Value.text e.1, e.2))
      = .ok fs := by
    clear hkeys
    induction fs with
    | nil => rfl
    | cons e rest ih =>
        rw [List.forall_mem_cons] at h
        rw [List.map_cons, fitEntries, h.1, ih h.2]
        rfl
  have hput : Value.putAll [] fs = fs := Value.Json.putAll_of_nodup hkeys
  rw [fit_table (entriesOf_record fs), hentries]
  show Except.ok (Value.record (Value.putAll [] fs)) = _
  rw [hput]

/-- What one field gets. -/
def fitField (given : List (String × Value))
    (f : String × Shape × Option Value) : Fitted Value :=
  match Value.lookup f.1 given, f.2.2 with
  | some v, _ => within (.field f.1) (fit f.2.1 v)
  | none, some v => .ok v
  | none, none => within (.field f.1) (problem "value_error.missing")

theorem fitFields_cons (f : String × Shape × Option Value)
    (rest : List (String × Shape × Option Value))
    (given : List (String × Value)) :
    fitFields (f :: rest) given
      = both (fun v done => (f.1, v) :: done) (fitField given f)
        (fitFields rest given) := by
  obtain ⟨name, shape, usual⟩ := f
  rfl

/-- A field that is given is filled in with what is made of its value. -/
theorem fitField_of_lookup {given : List (String × Value)}
    {f : String × Shape × Option Value} {v v' : Value}
    (hlookup : Value.lookup f.1 given = some v) (hfit : fit f.2.1 v = .ok v') :
    fitField given f = .ok v' := by
  unfold fitField
  rw [hlookup]
  exact within_eq_ok.2 hfit

theorem keys_fitFields {shapes : List (String × Shape × Option Value)}
    {given done : List (String × Value)}
    (h : fitFields shapes given = .ok done) :
    done.map Prod.fst = shapes.map Prod.fst := by
  induction shapes generalizing done with
  | nil =>
      cases h
      rfl
  | cons f rest ih =>
      rw [fitFields_cons] at h
      obtain ⟨v, done', -, hrest, rfl⟩ := both_eq_ok.1 h
      rw [List.map_cons, List.map_cons, ih hrest]

/-- Fields that were filled in are filled in the same way from what has them. -/
theorem fitFields_of_fitFields {shapes : List (String × Shape × Option Value)}
    {given done all : List (String × Value)}
    (hfields : ∀ f ∈ shapes, ∀ v v', fit f.2.1 v = .ok v' →
      fit f.2.1 v' = .ok v')
    (husual : ∀ f ∈ shapes, ∀ v ∈ f.2.2, fit f.2.1 v = .ok v)
    (h : fitFields shapes given = .ok done)
    (hall : ∀ e ∈ done, Value.lookup e.1 all = some e.2) :
    fitFields shapes all = .ok done := by
  induction shapes generalizing done with
  | nil =>
      cases h
      rfl
  | cons f rest ih =>
      rw [List.forall_mem_cons] at hfields husual
      rw [fitFields_cons] at h
      obtain ⟨v, done', hv, hrest, rfl⟩ := both_eq_ok.1 h
      rw [List.forall_mem_cons] at hall
      have hfits : fit f.2.1 v = .ok v := by
        unfold fitField at hv
        split at hv
        · exact hfields.1 _ _ (within_eq_ok.1 hv)
        · rename_i usual _ hsome
          obtain rfl := Except.ok.inj hv
          exact husual.1 _ hsome
        · cases hv
      rw [fitFields_cons, fitField_of_lookup hall.1 hfits,
        ih hfields.2 husual.2 hrest hall.2]
      rfl

/-- A value that has been made to fit a well-made shape fits it as it is. -/
theorem fit_of_fit (hs : WellMade s) (h : fit s v = .ok v') :
    fit s v' = .ok v' := by
  induction hs generalizing v v' with
  | scalar hscalar => exact fit_of_fit_scalar hscalar h
  | list _ ih =>
      cases v with
      | list items =>
          rw [fit_list] at h
          obtain ⟨items', hitems, rfl⟩ := map_eq_ok.1 h
          exact fit_list_of_forall (forall_mem_fitItems (fun _ _ => ih) hitems)
      | null | bool _ | int _ | real _ | text _ | date _ | record _ => cases h
  | table _ ih =>
      cases accepts_of_fit h with
      | table hes _ _ =>
          rw [fit_table hes] at h
          obtain ⟨fs, hfs, rfl⟩ := map_eq_ok.1 h
          have hvalues := forall_mem_fitEntries (fun _ _ => ih) hfs
          exact fit_table_of_forall (Value.nodup_keys_putAll fs)
            (Value.forall_mem_putAll (fun _ he =>
              absurd he List.not_mem_nil) hvalues)
  | optional _ ih =>
      cases v with
      | null =>
          obtain rfl := Except.ok.inj h
          rfl
      | bool _ | int _ | real _ | text _ | date _ | list _ | record _ =>
          cases v' with
          | null => rfl
          | bool _ | int _ | real _ | text _ | date _ | list _ | record _ =>
              exact ih h
  | fields hnames _ husual ih =>
      obtain ⟨es, hes, -⟩ := accepts_fields_iff.1 (accepts_of_fit h)
      rw [fit_named hes] at h
      obtain ⟨done, hdone, rfl⟩ := map_eq_ok.1 h
      rw [← keys_fitFields hdone] at hnames
      rw [fit_fields,
        fitFields_of_fitFields (fun f hf _ _ => ih f hf) husual hdone
          fun e he => Value.lookup_of_mem hnames he]
      rfl

-- ============================================================ messages

/-- A field that may stand in a well-made shape. -/
def InOrder (f : String × Shape × Option Value) : Prop :=
  WellMade f.2.1 ∧ ∀ v ∈ f.2.2, fit f.2.1 v = .ok v

theorem inOrder_needed {name : String} (h : WellMade s) :
    InOrder (needed name s) :=
  ⟨h, fun _ hv => absurd hv (Option.not_mem_none _)⟩

theorem inOrder_usually {name : String} (h : WellMade s)
    (hv : fit s v = .ok v) : InOrder (usually name s v) :=
  ⟨h, fun _ hmem => Option.some.inj hmem ▸ hv⟩

theorem inOrder_maybe {name : String} (h : WellMade s) :
    InOrder (maybe name s) :=
  inOrder_usually (.optional h) rfl

theorem wellMade_fields {shapes : List (String × Shape × Option Value)}
    (hnames : (shapes.map Prod.fst).Nodup) (h : ∀ f ∈ shapes, InOrder f) :
    WellMade (.fields shapes) :=
  .fields hnames (fun f hf => (h f hf).1) fun f hf => (h f hf).2

theorem wellMade_text : WellMade .text := .scalar rfl

theorem wellMade_standard : WellMade standard := by
  refine wellMade_fields (by decide) ?_
  simp only [List.forall_mem_cons]
  exact ⟨inOrder_needed wellMade_text, inOrder_needed wellMade_text,
    inOrder_needed wellMade_text, inOrder_needed wellMade_text,
    inOrder_maybe wellMade_text, nofun⟩

theorem wellMade_issue : WellMade issue := by
  refine wellMade_fields (by decide) ?_
  simp only [List.forall_mem_cons]
  exact ⟨inOrder_needed wellMade_text, inOrder_needed (.scalar rfl),
    inOrder_needed wellMade_text, inOrder_needed wellMade_text,
    inOrder_maybe (.scalar rfl), inOrder_maybe (.scalar rfl),
    inOrder_maybe wellMade_text, inOrder_maybe wellMade_text,
    inOrder_usually wellMade_text rfl, inOrder_usually (.scalar rfl) rfl,
    inOrder_usually (.table (.scalar rfl)) rfl,
    inOrder_usually (.list wellMade_standard) rfl,
    inOrder_usually (.list wellMade_text) rfl, nofun⟩

/-- A message that has been made fits as it is. -/
theorem fit_of_make (hs : WellMade s) {entries : List (String × Value)}
    (h : make s entries = .ok v) : fit s v = .ok v := by
  unfold make at h
  cases hfit : fit s (.record entries) with
  | error problems =>
      rw [hfit] at h
      cases h
  | ok v' =>
      rw [hfit] at h
      obtain rfl := Except.ok.inj h
      exact fit_of_fit hs hfit

theorem accepts_of_make (hs : WellMade s) {entries : List (String × Value)}
    (h : make s entries = .ok v) : Accepts s v :=
  accepts_of_fit (fit_of_make hs h)

end Schema

end SourceAudit
