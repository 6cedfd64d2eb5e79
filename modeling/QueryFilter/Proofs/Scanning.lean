import QueryFilter.Identifier
import Mathlib.Data.List.Basic
import Mathlib.Data.List.SplitBy
import Mathlib.Data.List.TakeWhile

/-!
# Reading texts from left to right

Two scanners of texts and how they read a text that is put together from others. `placeholdersIn`
keeps the digits behind each mark; `words` cuts a text into runs of name characters and single other
characters, and leaves blanks out. Both read parts on their own wherever no run crosses the border,
which `Opens` says of the text behind it.
-/

namespace QueryFilter.Scanning

/-! ## Borders -/

/-- The text is empty or starts with another character than those of `run`. -/
def Opens (run : Char → Bool) (text : String) : Prop := ∀ c ∈ text.toList.head?, run c = false

instance (run : Char → Bool) (text : String) : Decidable (Opens run text) :=
  decidable_of_iff (text.toList.head?.all fun c => !run c) (by simp [Opens, Option.all_eq_true])

theorem Opens.append {run : Char → Bool} {s : String} (opens : Opens run s) (nonempty : s ≠ "")
    (t : String) : Opens run (s ++ t) := by
  intro c head
  have some : s.toList ≠ [] := fun empty => nonempty (String.toList_eq_nil_iff.1 empty)
  rw [String.toList_append, List.head?_append_of_ne_nil _ some] at head
  exact opens c head

/-! ## Placeholders -/

theorem isDigit_of_mem {k : Nat} {c : Char} (member : c ∈ Nat.toDigits 10 k) : c.isDigit = true :=
  Nat.isDigit_of_mem_toDigits (by decide) (by decide) member

def placeholdersIn (mark : Char) : List Char → List String
  | [] => []
  | c :: rest =>
    if c = mark then String.ofList (rest.takeWhile Char.isDigit) :: placeholdersIn mark rest
    else placeholdersIn mark rest

theorem placeholdersIn_unmarked {mark : Char} {s : List Char} (unmarked : mark ∉ s)
    (t : List Char) : placeholdersIn mark (s ++ t) = placeholdersIn mark t := by
  induction s with
  | nil => rfl
  | cons c rest ih =>
      have other : c ≠ mark := fun same => unmarked (same ▸ List.mem_cons_self)
      rw [List.cons_append, placeholdersIn, if_neg other]
      exact ih fun member => unmarked (List.mem_cons_of_mem c member)

/-- Digits of a placeholder end where the next text starts, unless that starts with a digit. -/
theorem placeholdersIn_append {mark : Char} (s : List Char) {t : List Char}
    (closed : ∀ c ∈ t.head?, c.isDigit = false) :
    placeholdersIn mark (s ++ t) = placeholdersIn mark s ++ placeholdersIn mark t := by
  have stops : t.takeWhile Char.isDigit = [] := by
    cases t with
    | nil => rfl
    | cons c rest => exact List.takeWhile_cons_of_neg (by simp [closed c rfl])
  induction s with
  | nil => rfl
  | cons c rest ih =>
      have digits : (rest ++ t).takeWhile Char.isDigit = rest.takeWhile Char.isDigit := by
        rw [List.takeWhile_append]
        split
        · rename_i all
          rw [stops, List.append_nil, List.takeWhile_eq_self_iff.2]
          exact List.takeWhile_eq_self_iff.1 ((List.takeWhile_prefix _).eq_of_length all)
        · rfl
      rw [List.cons_append, placeholdersIn, placeholdersIn, digits, ih]
      split <;> rfl

/-! ## Words -/

def joins (a b : Char) : Bool := continuesName a && continuesName b

/-- Runs of name characters and single other characters, without blanks. -/
def words (text : String) : List String :=
  ((text.toList.splitBy joins).filter (· ≠ [' '])).map String.ofList

def Ends (text : String) : Prop := ∀ c ∈ text.toList.getLast?, continuesName c = false

instance (text : String) : Decidable (Ends text) :=
  decidable_of_iff (text.toList.getLast?.all fun c => !continuesName c)
    (by simp [Ends, Option.all_eq_true])

theorem words_append {s t : String}
    (apart : ∀ a ∈ s.toList.getLast?, ∀ b ∈ t.toList.head?, joins a b = false) :
    words (s ++ t) = words s ++ words t := by
  rw [words, String.toList_append, List.splitBy_append apart, List.filter_append, List.map_append]
  rfl

theorem words_append_opens (s : String) {t : String} (opens : Opens continuesName t) :
    words (s ++ t) = words s ++ words t := by
  apply words_append
  intro a _ b head
  rw [joins, opens b head, Bool.and_false]

theorem words_append_ends {s : String} (ends : Ends s) (t : String) :
    words (s ++ t) = words s ++ words t := by
  apply words_append
  intro a last b _
  rw [joins, ends a last, Bool.false_and]

/-- No run leaves the text on either side. -/
structure Apart (text : String) : Prop where
  opens : Opens continuesName text
  ends : Ends text
  nonempty : text ≠ ""

instance (text : String) : Decidable (Apart text) :=
  decidable_of_iff (Opens continuesName text ∧ Ends text ∧ text ≠ "")
    ⟨fun ⟨opens, ends, nonempty⟩ => ⟨opens, ends, nonempty⟩,
      fun ⟨opens, ends, nonempty⟩ => ⟨opens, ends, nonempty⟩⟩

theorem words_between (s : String) {middle : String} (apart : Apart middle) (t : String) :
    words (s ++ (middle ++ t)) = words s ++ (words middle ++ words t) := by
  rw [words_append_opens s (apart.opens.append apart.nonempty t), words_append_ends apart.ends]

theorem words_run {s : String} (nonempty : s ≠ "")
    (run : ∀ c ∈ s.toList, continuesName c = true) : words s = [s] := by
  have some : s.toList ≠ [] := fun empty => nonempty (String.toList_eq_nil_iff.1 empty)
  have joined : s.toList.Pairwise fun a b => joins a b = true := by
    apply List.pairwise_of_forall_mem_list
    intro a front b back
    rw [joins, run a front, run b back]
    rfl
  have notBlank : s.toList ≠ [' '] := by
    intro blank
    have := run ' ' (by rw [blank]; exact List.mem_singleton_self ' ')
    exact absurd this (by decide)
  rw [words, List.splitBy_of_isChain some joined.isChain, List.filter_cons_of_pos (by simpa),
    List.filter_nil, List.map_singleton, String.ofList_toList]

theorem words_intercalate {separator : String} (apart : Apart separator) (texts : List String) :
    words (separator.intercalate texts) = (words separator).intercalate (texts.map words) := by
  induction texts with
  | nil => rfl
  | cons text rest ih =>
      cases rest with
      | nil => rw [String.intercalate_singleton, List.map_singleton, List.intercalate_singleton]
      | cons next rest =>
          rw [String.intercalate_cons_cons, String.append_assoc,
            words_between text apart, ih]
          simp only [List.map_cons, List.intercalate_cons_cons, List.append_assoc]

end QueryFilter.Scanning
