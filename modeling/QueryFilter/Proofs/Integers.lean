import QueryFilter.Proofs.Numerals
import QueryFilter.Proofs.Operands

/-!
# Integers as values

The operands of a field, as the text spells them, and the values of its calls stand in the same
places (`Literal.Means.bound`). `integers_law` says what becomes of an integer in its place. One
that fits a signed word is kept, and one that fits an unsigned word only keeps the field unread. All
others are rounded to a float, and this is where an integer is altered (`integer_rounded`).
-/

namespace QueryFilter

/-! ## Entries of one name -/

section Named

variable {α β : Type} {R : α → β → Prop}

def Named (R : α → β → Prop) (e : String × α) (f : String × β) : Prop := e.1 = f.1 ∧ R e.2 f.2

namespace Fields

theorem insert_named {xs : Fields α} {ys : Fields β} (rows : List.Forall₂ (Named R) xs ys)
    {e : String × α} {f : String × β} (row : Named R e f) :
    List.Forall₂ (Named R) (insert e.1 e.2 xs) (insert f.1 f.2 ys) := by
  obtain ⟨name, a⟩ := e
  obtain ⟨_, b⟩ := f
  obtain ⟨rfl, content⟩ := row
  induction rows with
  | nil => exact .cons ⟨rfl, content⟩ .nil
  | @cons x y xs ys head tail ih =>
      obtain ⟨n, old⟩ := x
      obtain ⟨_, old'⟩ := y
      obtain ⟨rfl, before⟩ := head
      unfold insert
      split
      · exact .cons ⟨rfl, content⟩ tail
      · exact .cons ⟨rfl, before⟩ ih

theorem ofList_named {xs : List (String × α)} {ys : List (String × β)}
    (rows : List.Forall₂ (Named R) xs ys) :
    List.Forall₂ (Named R) (ofList xs) (ofList ys) := by
  suffices ∀ {start : Fields α} {start' : Fields β}, List.Forall₂ (Named R) start start' →
      List.Forall₂ (Named R) (xs.foldl (fun fields e => insert e.1 e.2 fields) start)
        (ys.foldl (fun fields e => insert e.1 e.2 fields) start') from this .nil
  induction rows with
  | nil => exact id
  | cons head tail ih => exact fun rows => ih (insert_named rows head)

theorem insert_absent {name : String} {content : α} {fields : Fields α}
    (absent : name ∉ names fields) : insert name content fields = fields ++ [(name, content)] := by
  induction fields with
  | nil => rfl
  | cons e rest ih =>
      obtain ⟨different, others⟩ := List.ne_and_not_mem_of_not_mem_cons absent
      rw [insert, if_neg fun same => different same.symm, ih others]
      rfl

theorem ofList_distinct {fields : Fields α} (distinct : (names fields).Nodup) :
    ofList fields = fields := by
  suffices ∀ start : Fields α, (names (start ++ fields)).Nodup →
      fields.foldl (fun fields e => insert e.1 e.2 fields) start = start ++ fields from
    this [] distinct
  clear distinct
  induction fields with
  | nil => exact fun start _ => (List.append_nil start).symm
  | cons e rest ih =>
      intro start distinct
      have split : start ++ e :: rest = (start ++ [e]) ++ rest := by simp
      have absent : e.1 ∉ names start := by
        rw [names, List.map_append, List.nodup_append] at distinct
        exact fun found => distinct.2.2 _ found _ List.mem_cons_self rfl
      rw [List.foldl_cons, insert_absent absent, split]
      exact ih (start ++ [e]) (split ▸ distinct)

end Fields
end Named

/-! ## Operands as they are spelled -/

namespace Literal

def items : Literal → List Literal
  | .array items => items
  | l => [l]

/-- What is no object asks for equality. -/
def entries : Literal → Fields Literal
  | .object members => Fields.ofList members
  | l => [(Operator.eq.token, l)]

/-- There is a call for each entry and a value for each item, and they fit. -/
def Bound (fits : Literal → Value → Prop) (l : Literal) (calls : List OperatorCall) : Prop :=
  List.Forall₂ (fun entry call => entry.1 = call.token ∧
    List.Forall₂ fits entry.2.items call.values) l.entries calls

def Means (l : Literal) (a : Json) : Prop := l.json? = some a

theorem jsonItems?_means {ls : List Literal} {items : List Json}
    (json : jsonItems? ls = some items) : List.Forall₂ Means ls items := by
  induction ls generalizing items with
  | nil =>
      cases json
      exact .nil
  | cons l rest ih =>
      unfold jsonItems? at json
      split at json
      · rename_i a as first others
        cases json
        exact .cons first (ih others)
      · cases json

theorem jsonMembers?_means {ms : List (String × Literal)} {fields : List (String × Json)}
    (json : jsonMembers? ms = some fields) : List.Forall₂ (Named Means) ms fields := by
  induction ms generalizing fields with
  | nil =>
      cases json
      exact .nil
  | cons m rest ih =>
      unfold jsonMembers? at json
      split at json
      · rename_i a as first others
        cases json
        exact .cons ⟨rfl, first⟩ (ih others)
      · cases json

def kind : Literal → Json.Kind
  | .null => .null
  | .bool _ => .boolean
  | .number _ => .number
  | .string _ => .string
  | .array _ => .array
  | .object _ => .object

theorem Means.kind {l : Literal} {a : Json} (means : l.Means a) : a.kind = l.kind := by
  cases l with
  | number x =>
      change x.value? = some a at means
      unfold Numeral.value? at means
      split at means
      · cases means
        rfl
      · obtain ⟨y, -, rfl⟩ := Option.map_eq_some_iff.1 means
        rfl
  | array ls =>
      obtain ⟨items, -, rfl⟩ := Option.map_eq_some_iff.1 means
      rfl
  | object ms =>
      obtain ⟨fields, -, rfl⟩ := Option.map_eq_some_iff.1 means
      rfl
  | _ =>
      cases means
      rfl

theorem Means.items {l : Literal} {a : Json} (means : l.Means a) :
    List.Forall₂ Means l.items a.items := by
  cases l with
  | array ls =>
      obtain ⟨items, json, rfl⟩ := Option.map_eq_some_iff.1 means
      exact jsonItems?_means json
  | _ =>
      rw [Json.items_single (means.kind ▸ nofun)]
      exact .cons means .nil

theorem Means.entries {l : Literal} {a : Json} (means : l.Means a) :
    List.Forall₂ (Named Means) l.entries a.entries := by
  cases l with
  | object ms =>
      obtain ⟨fields, json, rfl⟩ := Option.map_eq_some_iff.1 means
      exact Fields.ofList_named (jsonMembers?_means json)
  | _ =>
      rw [Json.entries_bare (means.kind ▸ nofun)]
      exact .cons ⟨rfl, means⟩ .nil

theorem Means.bound {l : Literal} {a : Json} (means : l.Means a) {field : String}
    {calls : List OperatorCall} (read : Expression field a calls) :
    l.Bound (fun item v => ∃ b, item.Means b ∧ b.Denotes v) calls := by
  refine (forall₂_comp.1 ⟨_, means.entries, read.each⟩).imp ?_
  rintro ⟨key, item⟩ _ ⟨⟨_, b⟩, ⟨rfl, same⟩, ⟨marked, operand⟩⟩
  exact ⟨rfl, forall₂_comp.1 ⟨_, same.items, operand.items⟩⟩

/-! ## Integers in their places -/

/-- An integer has its own value. -/
def Kept (l : Literal) (v : Value) : Prop :=
  ∀ x n, l = .number x → x.Spells n → ∃ m : Int64, v = .int m ∧ m.toInt = n

/-- An integer has its own value, or is beyond the words of 64 bits and has the value of a float. -/
def KeptOrRounded (l : Literal) (v : Value) : Prop :=
  ∀ x n, l = .number x → x.Spells n →
    (∃ m : Int64, v = .int m ∧ m.toInt = n) ∨
      (n < -Int.pow 2 63 ∨ Int.pow 2 64 ≤ n) ∧ ∃ y, x.float? = some y ∧ v = .float y

/-- An integer that fits an unsigned word, and no signed one. -/
def Unsigned (l : Literal) : Prop :=
  ∃ x n, l = .number x ∧ x.Spells n ∧ Int.pow 2 63 ≤ n ∧ n < Int.pow 2 64

theorem Means.keptOrRounded {l : Literal} {a : Json} {v : Value} (means : l.Means a)
    (denotes : a.Denotes v) : l.KeptOrRounded v := by
  rintro x n rfl spells
  change x.value? = some a at means
  rw [Numeral.value?_spells spells] at means
  split at means
  · cases means
    cases denotes with
    | integer m => exact .inl ⟨m, rfl, rfl⟩
  · rename_i beyond
    obtain ⟨y, rounded, rfl⟩ := Option.map_eq_some_iff.1 means
    cases denotes
    exact .inr ⟨by omega, y, rounded, rfl⟩

theorem Unsigned.refused {l : Literal} {a : Json} (unsigned : l.Unsigned) (means : l.Means a)
    (v : Value) : ¬ a.Denotes v := by
  have word : Int.pow 2 63 = 9223372036854775808 := rfl
  obtain ⟨x, n, rfl, spells, low, high⟩ := unsigned
  change x.value? = some a at means
  rw [Numeral.value?_spells spells, if_pos ⟨by omega, high⟩] at means
  cases means
  intro denotes
  cases denotes with
  | integer m => exact absurd m.toInt_lt (by omega)

theorem Means.denotes_iff {l : Literal} {a : Json} (means : l.Means a) :
    (∃ v, a.Denotes v) ↔ l.kind ≠ .array ∧ l.kind ≠ .object ∧ ¬ l.Unsigned := by
  constructor
  · rintro ⟨v, denotes⟩
    rw [← means.kind]
    refine ⟨?_, ?_, fun unsigned => unsigned.refused means v denotes⟩
    · cases denotes <;> nofun
    · cases denotes <;> nofun
  · rintro ⟨unlisted, unkeyed, fits⟩
    cases l with
    | number x =>
        change x.value? = some a at means
        unfold Numeral.value? at means
        split at means
        · rename_i n integer
          cases means
          have spells := Numeral.spells_of_integer? integer
          rw [Numeral.integer?_spells spells] at integer
          obtain ⟨low, high⟩ := (Option.ite_none_right_eq_some.1 integer).1
          have signed : n < Int.pow 2 63 :=
            Int.not_le.1 fun least => fits ⟨x, n, rfl, spells, least, high⟩
          exact ⟨_, Value.ofJson?_iff.1 (if_pos ⟨low, signed⟩)⟩
        · obtain ⟨y, -, rfl⟩ := Option.map_eq_some_iff.1 means
          exact ⟨_, .float y⟩
    | array ls => exact absurd rfl unlisted
    | object ms => exact absurd rfl unkeyed
    | null =>
        cases means
        exact ⟨_, .null⟩
    | bool b =>
        cases means
        exact ⟨_, .bool b⟩
    | string s =>
        cases means
        exact ⟨_, .string s⟩

/-- There are entries, all are operators, and their items are scalars that have a value. -/
def Readable (l : Literal) : Prop :=
  l.entries ≠ [] ∧ ∀ entry ∈ l.entries, Marked entry.1 ∧
    ∀ item ∈ entry.2.items, item.kind ≠ .array ∧ item.kind ≠ .object ∧ ¬ item.Unsigned

theorem Means.readable_iff {l : Literal} {a : Json} (means : l.Means a) {field : String} :
    (∃ calls, Expression field a calls) ↔ l.Readable := by
  have empty : a.entries = [] ↔ l.entries = [] := by
    rw [← List.length_eq_zero_iff, ← List.length_eq_zero_iff, means.entries.length_eq]
  rw [exists_expression_entries]
  refine and_congr (not_congr empty) (forall₂_forall_iff ?_ means.entries).symm
  rintro ⟨key, item⟩ ⟨_, b⟩ ⟨rfl, same⟩
  have items : (∃ values, Operand b values) ↔
      ∀ x ∈ item.items, x.kind ≠ .array ∧ x.kind ≠ .object ∧ ¬ x.Unsigned := by
    rw [exists_operand_items]
    exact (forall₂_forall_iff (fun x y each => each.denotes_iff.symm) same.items).symm
  rw [← items]
  constructor
  · rintro ⟨marked, values, operand⟩
    exact ⟨_, .operator marked operand⟩
  · rintro ⟨_, marked, operand⟩
    exact ⟨marked, _, operand⟩

theorem Bound.imp {fits fits' : Literal → Value → Prop} {l : Literal} {calls : List OperatorCall}
    (bound : l.Bound fits calls) (more : ∀ item v, fits item v → fits' item v) :
    l.Bound fits' calls :=
  List.Forall₂.imp (fun _ _ same => ⟨same.1, same.2.imp more⟩) bound

theorem Means.integers {l : Literal} {a : Json} (means : l.Means a) (field : String) :
    ((∃ calls, OperatorCall.parse field a = .ok calls) ↔ field ≠ "" ∧ l.Readable) ∧
    (∀ calls, OperatorCall.parse field a = .ok calls → l.Bound KeptOrRounded calls) ∧
    ((∃ entry ∈ l.entries, ∃ item ∈ entry.2.items, item.Unsigned) →
      ∃ cause, OperatorCall.parse field a = .error (.malformed field cause)) := by
  have readable : (∃ calls, OperatorCall.parse field a = .ok calls) ↔ field ≠ "" ∧ l.Readable := by
    simp only [OperatorCall.parse_iff, exists_and_left, means.readable_iff]
  refine ⟨readable, ?_, ?_⟩
  · intro calls read
    refine (means.bound (OperatorCall.parse_iff.1 read).2).imp ?_
    rintro item v ⟨b, same, denotes⟩
    exact same.keptOrRounded denotes
  · rintro ⟨entry, inEntries, item, inItems, unsigned⟩
    cases read : OperatorCall.parse field a with
    | ok calls =>
        obtain ⟨-, -, each⟩ := readable.1 ⟨calls, read⟩
        exact absurd unsigned ((each entry inEntries).2 item inItems).2.2
    | error fault =>
        obtain ⟨cause, rfl, -⟩ := OperatorCall.parse_refused.1 read
        exact ⟨cause, rfl⟩

end Literal

namespace Spec

theorem parse_means {text : String} {spec : Spec} (accepted : parse text = .ok spec) :
    ∃ members, Literal.read? text = some (.object members) ∧
      List.Forall₂ (Named Literal.Means) (Fields.ofList members) spec.fields := by
  unfold parse at accepted
  split at accepted
  · rename_i json read
    obtain ⟨l, spelled, means⟩ := Option.bind_eq_some_iff.1 read
    unfold ofJson ofJsonAt at accepted
    split at accepted
    · rename_i fields
      cases accepted
      cases l with
      | object members =>
          obtain ⟨named, json, same⟩ := Option.map_eq_some_iff.1 means
          cases same
          refine ⟨members, spelled, ?_⟩
          change List.Forall₂ _ _ (Fields.ofList (Fields.ofList named))
          rw [Fields.ofList_distinct (Fields.nodup_ofList named)]
          exact Fields.ofList_named (Literal.jsonMembers?_means json)
      | _ => cases Literal.Means.kind means
    · cases accepted
  · cases accepted

/-- A specification that is read has the fields of its text. In a field whose expression is read,
every integer has its own value in its place, or a float if it is beyond the words of 64 bits; no
integer keeps a field from being read but one that fits an unsigned word only. An integer is what is
spelled by its decimal representation. -/
theorem integers_law {text : String} {spec : Spec} (accepted : parse text = .ok spec) :
    (∃ members, Literal.read? text = some (.object members) ∧
      List.Forall₂ (fun m f => m.1 = f.1 ∧
        ((∃ calls, OperatorCall.parse f.1 f.2 = .ok calls) ↔ f.1 ≠ "" ∧ m.2.Readable) ∧
        (∀ calls, OperatorCall.parse f.1 f.2 = .ok calls →
          m.2.Bound Literal.KeptOrRounded calls) ∧
        ((∃ entry ∈ m.2.entries, ∃ item ∈ entry.2.items, item.Unsigned) →
          ∃ cause, OperatorCall.parse f.1 f.2 = .error (.malformed f.1 cause)))
        (Fields.ofList members) spec.fields) ∧
    ∀ s x rest, Numeral.read s = some (x, rest) →
      ∀ n, x.Spells n ↔ s = (toString n).toList ++ rest := by
  obtain ⟨members, read, fields⟩ := parse_means accepted
  refine ⟨⟨members, read, fields.imp ?_⟩, fun s x rest taken n => Numeral.spells_iff taken⟩
  rintro m f ⟨same, means⟩
  exact ⟨same, means.integers f.1⟩

/-- One below the least signed word is read as that word, in a float. -/
theorem integer_rounded : ¬ ∀ (text : String) (spec : Spec), parse text = .ok spec →
    ∀ members, Literal.read? text = some (.object members) →
      List.Forall₂ (fun m f => ∀ calls, OperatorCall.parse f.1 f.2 = .ok calls →
        m.2.Bound Literal.Kept calls) (Fields.ofList members) spec.fields := by
  intro claim
  have read : (parse "\x7b\"age\":-9223372036854775809\x7d" >>= fun s =>
      s.fields.mapM fun f => OperatorCall.parse f.1 f.2) =
        .ok [[⟨"age", "$eq", [.float ⟨0xc3e0000000000000⟩]⟩]] := by decide +kernel
  have tree : Literal.read? "\x7b\"age\":-9223372036854775809\x7d" = some (.object [("age", .number
      ⟨true, [9, 2, 2, 3, 3, 7, 2, 0, 3, 6, 8, 5, 4, 7, 7, 5, 8, 0, 9], [], none⟩)]) := by
    with_unfolding_all rfl
  obtain ⟨spec, accepted, each⟩ := bind_eq_ok.1 read
  have fields := forall₂_comp.1 ⟨_, claim _ spec accepted _ tree, mapM_eq_ok.1 each⟩
  obtain ⟨f, kept, shape⟩ := (List.forall₂_cons.1 fields).1
  have items := (List.forall₂_cons.1 (kept _ shape)).1.2
  obtain ⟨m, float, -⟩ := (List.forall₂_cons.1 items).1 _ (-9223372036854775809) rfl
    ⟨rfl, rfl, by decide, by decide⟩
  cases float

theorem integers_law_unsigned :
    ∃ spec, parse "\x7b\"id\":9223372036854775808\x7d" = .ok spec ∧ ∃ a cause,
      spec.fields = [("id", a)] ∧
        OperatorCall.parse "id" a = .error (.malformed "id" cause) := by
  have tree : Literal.read? "\x7b\"id\":9223372036854775808\x7d" = some (.object [("id", .number
      ⟨false, [9, 2, 2, 3, 3, 7, 2, 0, 3, 6, 8, 5, 4, 7, 7, 5, 8, 0, 8], [], none⟩)]) := by
    with_unfolding_all rfl
  have readable : (parse "\x7b\"id\":9223372036854775808\x7d").toBool = true := by decide +kernel
  cases accepted : parse "\x7b\"id\":9223372036854775808\x7d" with
  | error fault =>
      rw [accepted] at readable
      cases readable
  | ok spec =>
      obtain ⟨⟨members, spelled, fields⟩, -⟩ := integers_law accepted
      cases tree.symm.trans spelled
      obtain ⟨⟨_, a⟩, _, ⟨rfl, -, -, refused⟩, none, whole⟩ := List.forall₂_cons_left_iff.1 fields
      cases none
      obtain ⟨cause, error⟩ := refused ⟨_, List.mem_cons_self, _, List.mem_cons_self, _,
        9223372036854775808, rfl, ⟨rfl, rfl, by decide, by decide⟩, by decide, by decide⟩
      exact ⟨spec, rfl, a, cause, whole, error⟩

end Spec
end QueryFilter
