import Mathlib.Data.Finset.Card
import QueryFilter.Proofs.Enabling
import QueryFilter.Proofs.Resolution

/-!
# Fields inserted one after another

`Latest` says what insertions leave without inserting: each name once, where it first came, with the
content that came last. One insertion keeps this (`Latest.insert`), so it holds of all of them in
order (`latest_ofList`), and of nothing else (`Latest.unique`). An expression that is overwritten
leaves no trace: the later one might have come in its place (`ofList_overwritten`). `inserting_law`
says so of a specification, of its size, and of the fields that are resolved.
-/

namespace QueryFilter
open Resolution

section Given

variable {α : Type} {given : List (String × α)} {fields : Fields α} {name other : String}
  {content old new : α}

/-- The content is the last that came under the name. -/
def LastContent (given : List (String × α)) (name : String) (content : α) : Prop :=
  ∃ before after, given = before ++ (name, content) :: after ∧ name ∉ Fields.names after

structure Latest (given : List (String × α)) (fields : Fields α) : Prop where
  names : FirstOccurrences (Fields.names given) (Fields.names fields)
  contents : ∀ f ∈ fields, LastContent given f.1 f.2

/-! ## The last content of a name -/

theorem lastContent_concat : LastContent (given ++ [(other, new)]) name content ↔
    other = name ∧ new = content ∨ other ≠ name ∧ LastContent given name content := by
  constructor
  · rintro ⟨before, after, whole, absent⟩
    rcases List.eq_nil_or_concat' after with rfl | ⟨rest, last, rfl⟩
    · obtain ⟨-, same⟩ := List.append_inj' whole rfl
      cases same
      exact .inl ⟨rfl, rfl⟩
    · rw [← List.cons_append, ← List.append_assoc] at whole
      obtain ⟨rfl, same⟩ := List.append_inj' whole rfl
      cases same
      rw [Fields.names, List.map_append, List.mem_append, not_or] at absent
      refine .inr ⟨?_, before, rest, rfl, absent.1⟩
      rintro rfl
      exact absent.2 (List.mem_singleton_self other)
  · rintro (⟨rfl, rfl⟩ | ⟨different, before, after, rfl, absent⟩)
    · exact ⟨given, [], rfl, List.not_mem_nil⟩
    · exact ⟨before, after ++ [(other, new)], by simp, by simp [absent, different.symm]⟩

theorem LastContent.unique (last : LastContent given name old)
    (last' : LastContent given name new) : old = new := by
  induction given using List.reverseRecOn with
  | nil =>
      obtain ⟨before, after, none, -⟩ := last
      simp at none
  | append_singleton given e ih =>
      rcases lastContent_concat.1 last with ⟨same, rfl⟩ | ⟨different, last⟩
      · rcases lastContent_concat.1 last' with ⟨-, rfl⟩ | ⟨different, -⟩
        · rfl
        · exact absurd same different
      · rcases lastContent_concat.1 last' with ⟨same, -⟩ | ⟨-, last'⟩
        · exact absurd same different
        · exact ih last last'

/-! ## One insertion -/

namespace Fields

theorem eq_or_mem_of_mem_insert {f : String × α} (distinct : (names fields).Nodup)
    (member : f ∈ insert name content fields) :
    f = (name, content) ∨ f ∈ fields ∧ name ≠ f.1 := by
  induction fields with
  | nil => exact .inl (List.mem_singleton.1 member)
  | cons e rest ih =>
      obtain ⟨n, previous⟩ := e
      obtain ⟨absent, distinct⟩ := List.nodup_cons.1 distinct
      unfold insert at member
      split at member
      · rename_i same
        subst same
        refine (List.mem_cons.1 member).imp_right fun later => ⟨List.mem_cons_of_mem _ later, ?_⟩
        rintro rfl
        exact absent (List.mem_map.2 ⟨f, later, rfl⟩)
      · rename_i different
        rcases List.mem_cons.1 member with rfl | later
        · exact .inr ⟨List.mem_cons_self, Ne.symm different⟩
        · refine (ih distinct later).imp_right fun found => ?_
          exact ⟨List.mem_cons_of_mem _ found.1, found.2⟩

theorem insert_insert (name : String) (old new : α) (fields : Fields α) :
    insert name new (insert name old fields) = insert name new fields := by
  induction fields with
  | nil => simp [insert]
  | cons e rest ih =>
      by_cases same : e.1 = name
      · simp [insert, same]
      · simp [insert, same, ih]

/-- A name that is present is no later for being inserted later. -/
theorem insert_comm (different : other ≠ name) (present : name ∈ names fields) (new content : α) :
    insert name new (insert other content fields) =
      insert other content (insert name new fields) := by
  induction fields with
  | nil => cases present
  | cons e rest ih =>
      by_cases same : e.1 = name
      · subst same
        simp [insert, different.symm]
      · have later : name ∈ names rest := (List.mem_cons.1 present).resolve_left (Ne.symm same)
        by_cases same' : e.1 = other
        · subst same'
          simp [insert, different]
        · simp [insert, same, same', ih later]

end Fields

theorem Latest.insert (latest : Latest given fields) (name : String) (content : α) :
    Latest (given ++ [(name, content)]) (Fields.insert name content fields) := by
  constructor
  · rw [Fields.names_insert, Fields.names, List.map_append]
    exact latest.names.concat name
  · intro f member
    rcases Fields.eq_or_mem_of_mem_insert latest.names.nodup member with rfl | ⟨before, different⟩
    · exact lastContent_concat.2 (.inl ⟨rfl, rfl⟩)
    · exact lastContent_concat.2 (.inr ⟨different, latest.contents f before⟩)

/-! ## All insertions -/

theorem latest_ofList (given : List (String × α)) : Latest given (Fields.ofList given) := by
  -- From the end, where an insertion adds to what was given.
  induction given using List.reverseRecOn with
  | nil => exact ⟨⟨fun _ => Iff.rfl, .nil⟩, List.forall_mem_nil _⟩
  | append_singleton given e ih =>
      rw [Fields.ofList, List.foldl_append]
      exact ih.insert e.1 e.2

theorem Latest.unique {fields' : Fields α} (latest : Latest given fields)
    (latest' : Latest given fields') : fields = fields' := by
  have names := latest.names.unique latest'.names
  have contents := latest.contents
  have contents' := latest'.contents
  -- What is left is about two lists of the same names, of which each has one last content.
  clear latest latest'
  induction fields generalizing fields' with
  | nil => exact (List.map_eq_nil_iff.1 names.symm).symm
  | cons f rest ih =>
      cases fields' with
      | nil => cases names
      | cons f' rest' =>
          obtain ⟨name, others⟩ := List.cons.inj names
          obtain ⟨last, lasts⟩ := List.forall_mem_cons.1 contents
          obtain ⟨last', lasts'⟩ := List.forall_mem_cons.1 contents'
          rw [← name] at last'
          rw [ih others lasts lasts', Prod.ext name (last.unique last')]

theorem Latest.length (latest : Latest given fields) :
    fields.length = (Fields.names given).toFinset.card := by
  have members : (Fields.names given).toFinset = (Fields.names fields).toFinset := by
    ext name
    rw [List.mem_toFinset, List.mem_toFinset, latest.names.members]
  rw [members, List.toFinset_card_of_nodup latest.names.nodup, List.length_map]

/-! ## Contents overwritten -/

namespace Fields

theorem mem_names_insert : other ∈ names (insert name content fields) ↔
    other ∈ names fields ∨ other = name := by
  rw [names_insert]
  split
  · rename_i present
    exact (or_iff_left_of_imp fun same => same ▸ present).symm
  · rw [List.mem_append, List.mem_singleton]

theorem insert_foldl {middle : List (String × α)} (absent : name ∉ names middle)
    (present : name ∈ names fields) (new : α) :
    insert name new (middle.foldl (fun fields e => insert e.1 e.2 fields) fields) =
      middle.foldl (fun fields e => insert e.1 e.2 fields) (insert name new fields) := by
  induction middle generalizing fields with
  | nil => rfl
  | cons e rest ih =>
      obtain ⟨different, others⟩ := List.ne_and_not_mem_of_not_mem_cons absent
      have kept : name ∈ names (insert e.1 e.2 fields) := mem_names_insert.2 (.inl present)
      rw [List.foldl_cons, List.foldl_cons, ih others kept, insert_comm different.symm present]

theorem ofList_overwritten {middle : List (String × α)} (absent : name ∉ names middle)
    (before after : List (String × α)) (old new : α) :
    ofList (before ++ (name, old) :: (middle ++ (name, new) :: after)) =
      ofList (before ++ (name, new) :: (middle ++ after)) := by
  unfold ofList
  simp only [List.foldl_append, List.foldl_cons]
  rw [insert_foldl absent (mem_names_insert.2 (.inr rfl)), insert_insert]

end Fields
end Given

/-! ## Specifications -/

namespace Spec

/-- The specification after the fields are set, in order. -/
def inserting (s : Spec) (given : List (String × Json)) : Spec :=
  given.foldl (fun s f => s.insert f.1 f.2) s

theorem inserting_fields (s : Spec) (given : List (String × Json)) :
    (s.inserting given).fields =
      given.foldl (fun fields f => Fields.insert f.1 f.2 fields) s.fields := by
  induction given generalizing s with
  | nil => rfl
  | cons f rest ih => exact ih (s.insert f.1 f.2)

theorem inserting_empty (given : List (String × Json)) :
    empty.inserting given = ofFields given := by
  have fields : (empty.inserting given).fields = (ofFields given).fields :=
    inserting_fields empty given
  generalize empty.inserting given = s at fields
  obtain ⟨fields', distinct⟩ := s
  cases fields
  rfl

/-- After any insertions there is one field for each name. The fields are resolved in the order in
which their names first came, each once and with the expression that came last, up to the first that
is rejected. An expression overwritten leaves nothing: the next one of its field might have come in
its place. -/
theorem inserting_law (given : List (String × Json)) :
    (empty.inserting given).size = (Fields.names given).toFinset.card ∧
    (∀ fields, (empty.inserting given).fields = fields ↔ Latest given fields) ∧
    (∀ (e : Enabled) fields, Latest given fields → ∀ cs r,
      e.applyAll (empty.inserting given) = ⟨cs, r⟩ ↔
        InTurn (fun f cs r => e.apply f.1 f.2 = ⟨cs, r⟩) fields cs r) ∧
    ∀ before middle after field old new, field ∉ Fields.names middle →
      given = before ++ (field, old) :: (middle ++ (field, new) :: after) →
        empty.inserting given = empty.inserting (before ++ (field, new) :: (middle ++ after)) := by
  rw [inserting_empty]
  have latest : Latest given (ofFields given).fields := latest_ofList given
  refine ⟨latest.length, fun fields => ⟨?_, latest.unique⟩, fun e fields other cs r => ?_, ?_⟩
  · rintro rfl
    exact latest
  · rw [← latest.unique other]
    apply inTurn_iff
    rw [List.forall₂_map_right_iff, List.forall₂_same]
    exact fun f _ cs r => Iff.rfl
  · rintro before middle after field old new absent rfl
    rw [inserting_empty]
    unfold ofFields
    simp only [Fields.ofList_overwritten absent]

theorem inserting_law_repeated :
    let adult : Json := .object [("$gt", .integer 18)]
    let unknown : Json := .object [("$nope", .null)]
    let given : List (String × Json) := [("age", .integer 1), ("name", .object [("$null", .null)]),
      ("age", adult), ("state", unknown), ("id", .integer 7), ("name", .string "ann")]
    let fields : Fields Json :=
      [("age", adult), ("name", .string "ann"), ("state", unknown), ("id", .integer 7)]
    let e : Enabled := ⟨[Operator.eq.strategy, Operator.gt.strategy]⟩
    (empty.inserting given).size = 4 ∧ Latest given fields ∧
      InTurn (fun f cs r => e.apply f.1 f.2 = ⟨cs, r⟩) fields
        [.compare "age" .gt (.int 18), .compare "name" .eq (.string "ann")]
        (some (.unknownOperator "state" "$nope")) ∧
      empty.inserting given = empty.inserting fields := by
  intro adult unknown given fields e
  obtain ⟨size, left, resolved, overwritten⟩ := inserting_law given
  have latest : Latest given fields := (left fields).1 rfl
  refine ⟨size, latest, (resolved e fields latest _ _).1 (by decide), ?_⟩
  have age := overwritten [] [("name", .object [("$null", .null)])]
    [("state", unknown), ("id", .integer 7), ("name", .string "ann")] "age" (.integer 1) adult
    (by decide) rfl
  rw [age]
  exact (inserting_law _).2.2.2 [("age", adult)] [("state", unknown), ("id", .integer 7)] [] "name"
    (.object [("$null", .null)]) (.string "ann") (by decide) rfl

end Spec
end QueryFilter
