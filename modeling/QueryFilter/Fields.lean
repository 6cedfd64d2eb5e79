/-!
# Named entries in order of first arrival

A list of pairs with a name in front. `Fields.insert` keeps the place of a name that is present and
takes the new content; a new name goes last. `Fields.ofList` inserts one after the other, so a
repeated name has its first place and its last content.
-/

namespace QueryFilter

abbrev Fields (α : Type) := List (String × α)

namespace Fields

variable {α : Type}

abbrev names (fields : Fields α) : List String := fields.map Prod.fst

def insert (name : String) (content : α) : Fields α → Fields α
  | [] => [(name, content)]
  | (n, old) :: rest =>
    if n = name then (n, content) :: rest else (n, old) :: insert name content rest

def ofList (entries : List (String × α)) : Fields α :=
  entries.foldl (fun fields e => insert e.1 e.2 fields) []

def get? (name : String) : Fields α → Option α
  | [] => none
  | (n, content) :: rest => if n = name then some content else get? name rest

/-! ## Lemmas -/

theorem names_insert (name : String) (content : α) (fields : Fields α) :
    names (insert name content fields) =
      if name ∈ names fields then names fields else names fields ++ [name] := by
  induction fields with
  | nil => simp [insert, names]
  | cons e rest ih =>
    obtain ⟨n, old⟩ := e
    unfold insert
    split
    · rename_i h
      simp [names, h]
    · rename_i h
      have h' : name ≠ n := fun e => h e.symm
      simp only [names, List.map_cons, List.mem_cons, h', false_or] at ih ⊢
      rw [ih]
      split <;> simp

theorem nodup_insert {name : String} {content : α} {fields : Fields α}
    (h : (names fields).Nodup) : (names (insert name content fields)).Nodup := by
  rw [names_insert]
  split
  · exact h
  · rename_i absent
    rw [List.nodup_append]
    refine ⟨h, by simp, ?_⟩
    intro a ha b hb e
    rw [List.mem_singleton] at hb
    exact absent (hb ▸ e ▸ ha)

theorem nodup_ofList (entries : List (String × α)) : (names (ofList entries)).Nodup := by
  suffices ∀ start : Fields α, (names start).Nodup →
      (names (entries.foldl (fun fields e => insert e.1 e.2 fields) start)).Nodup from
    this [] (by simp [names])
  induction entries with
  | nil => exact fun _ h => h
  | cons e rest ih => exact fun start h => ih _ (nodup_insert h)

end Fields
end QueryFilter
