import Mathlib.Data.List.Nodup
import Mathlib.Logic.Function.Basic

/-!
# Singly linked lists in memory

Cells with a value and a pointer to the next one, at addresses of a heap, and a pointer to the first
one. A segment is a list of cells that are met on the way from one pointer to another
(`Segment.append`, `Segment.snoc_iff`). A store holds a list when the list is a segment from its
head to the null pointer and no address occurs twice (`Listed`), and it owns the list when nothing
else is allocated (`Owned`).

A cell is pushed in front (`Owned.push`), written in place (`Owned.set`), and taken out by a loop
that walks along the places where the pointers are kept and redirects the one that points to it, to
be released after that (`Owned.unlink`). A search walks along the cells (`Listed.findLoop_eq`).
Every read of the loops is a read of an allocated cell.
-/

set_option autoImplicit false

namespace LinkedList

universe u v

/-- What is kept at an address. -/
structure Cell (α : Type u) (β : Type v) where
  value : β
  next : Option α

/-- The heap and the pointer to the first cell. -/
structure Store (α : Type u) (β : Type v) where
  heap : α → Option (Cell α β)
  head : Option α

/-- Where a pointer is kept. -/
inductive Place (α : Type u) where
  | head
  | next (a : α)

variable {α : Type u} {β : Type v}

/-! ## Segments -/

/-- The cells met on the way from one pointer to another. -/
inductive Segment (heap : α → Option (Cell α β)) : Option α → List (α × β) → Option α → Prop where
  | nil (p : Option α) : Segment heap p [] p
  | cons (a : α) (value : β) (next : Option α) (rest : List (α × β)) (q : Option α) :
      heap a = some ⟨value, next⟩ → Segment heap next rest q →
      Segment heap (some a) ((a, value) :: rest) q

namespace Segment

variable {heap other : α → Option (Cell α β)} {p q r : Option α} {first second : List (α × β)}

theorem append (front : Segment heap p first q) (back : Segment heap q second r) :
    Segment heap p (first ++ second) r := by
  induction front with
  | nil => exact back
  | cons a value next rest q here _ ih => exact .cons a value next _ r here (ih back)

theorem eq_of_nil (segment : Segment heap p [] q) : p = q := by
  cases segment
  rfl

theorem cons_iff {a : α} {value : β} {rest : List (α × β)} :
    Segment heap p ((a, value) :: rest) q ↔
      p = some a ∧ ∃ next, heap a = some ⟨value, next⟩ ∧ Segment heap next rest q := by
  constructor
  · intro segment
    cases segment with
    | cons a value next rest q here back => exact ⟨rfl, next, here, back⟩
  · rintro ⟨rfl, next, here, back⟩
    exact .cons a value next rest q here back

theorem append_iff : Segment heap p (first ++ second) r ↔
    ∃ q, Segment heap p first q ∧ Segment heap q second r := by
  constructor
  · intro segment
    induction first generalizing p with
    | nil => exact ⟨p, .nil p, segment⟩
    | cons cell first ih =>
        obtain ⟨rfl, next, here, back⟩ := cons_iff.mp segment
        obtain ⟨q, one, two⟩ := ih back
        exact ⟨q, .cons cell.1 cell.2 next first q here one, two⟩
  · rintro ⟨q, front, back⟩
    exact front.append back

theorem snoc_iff {a : α} {value : β} :
    Segment heap p (first ++ [(a, value)]) q ↔
      Segment heap p first (some a) ∧ heap a = some ⟨value, q⟩ := by
  rw [append_iff]
  constructor
  · rintro ⟨middle, front, back⟩
    obtain ⟨rfl, next, here, last⟩ := cons_iff.mp back
    cases last.eq_of_nil
    exact ⟨front, here⟩
  · rintro ⟨front, here⟩
    exact ⟨some a, front, .cons a value q [] q here (.nil q)⟩

/-- The cells of a segment are what they are in another heap that agrees on their addresses. -/
theorem transport (segment : Segment heap p first q)
    (agree : ∀ a ∈ first.map Prod.fst, other a = heap a) : Segment other p first q := by
  induction segment with
  | nil => exact .nil _
  | cons a value next rest q here _ ih =>
      refine .cons a value next rest q ?_
        (ih fun b member => agree b (List.mem_cons_of_mem a member))
      rw [agree a List.mem_cons_self, here]

/-- Every cell of a segment is allocated. -/
theorem allocated (segment : Segment heap p first q) {a : α} {value : β}
    (member : (a, value) ∈ first) : ∃ next, heap a = some ⟨value, next⟩ := by
  obtain ⟨before, after, rfl⟩ := List.append_of_mem member
  obtain ⟨_, _, back⟩ := append_iff.mp segment
  obtain ⟨_, next, here, _⟩ := cons_iff.mp back
  exact ⟨next, here⟩

end Segment

/-- The store holds the cells, in this order. -/
structure Listed (s : Store α β) (cells : List (α × β)) : Prop where
  segment : Segment s.heap s.head cells none
  distinct : (cells.map Prod.fst).Nodup

/-- The store holds the cells, and nothing else is allocated. -/
structure Owned (s : Store α β) (cells : List (α × β)) : Prop extends Listed s cells where
  exact : ∀ a ∉ cells.map Prod.fst, s.heap a = none

/-! ## Operations -/

namespace Store

/-- A pointer is read; `none` when the cell it is kept in is not allocated. -/
def read (s : Store α β) : Place α → Option (Option α)
  | .head => some s.head
  | .next a => (s.heap a).map Cell.next

variable [DecidableEq α]

def write (s : Store α β) (place : Place α) (p : Option α) : Store α β :=
  match place with
  | .head => { s with head := p }
  | .next a =>
      { s with heap := Function.update s.heap a ((s.heap a).map fun cell => ⟨cell.value, p⟩) }

/-- A new cell at an address is put in front. -/
def push (s : Store α β) (a : α) (value : β) : Store α β :=
  ⟨Function.update s.heap a (some ⟨value, s.head⟩), some a⟩

/-- The value of a cell is written. -/
def set (s : Store α β) (a : α) (value : β) : Store α β :=
  { s with heap := Function.update s.heap a ((s.heap a).map fun cell => ⟨value, cell.next⟩) }

def free (s : Store α β) (a : α) : Store α β := { s with heap := Function.update s.heap a none }

/-- The loop that takes the cell at an address out of the list, from a place on. It fails when it
reads a cell that is not allocated, or runs out of fuel. -/
def unlinkLoop (s : Store α β) (target : α) : ℕ → Place α → Option (Store α β)
  | 0, _ => none
  | fuel + 1, place =>
      match s.read place with
      | none => none
      | some none => some s
      | some (some a) =>
          if a = target then (s.heap a).map fun cell => s.write place cell.next
          else unlinkLoop s target fuel (.next a)

/-- The loop that searches the list for a value, from a pointer on. -/
def findLoop (s : Store α β) (meets : β → Bool) : ℕ → Option α → Option (Option α)
  | 0, _ => none
  | _ + 1, none => some none
  | fuel + 1, some a =>
      match s.heap a with
      | none => none
      | some cell => if meets cell.value then some (some a) else findLoop s meets fuel cell.next

end Store

namespace Listed

variable {s : Store α β} {cells : List (α × β)}

/-- A search finds what a search of the list finds. -/
theorem findLoop_eq (meets : β → Bool) {p : Option α} (segment : Segment s.heap p cells none)
    {fuel : ℕ} (enough : cells.length < fuel) :
    s.findLoop meets fuel p = some ((cells.find? fun cell => meets cell.2).map Prod.fst) := by
  induction cells generalizing p fuel with
  | nil =>
      obtain ⟨fuel, rfl⟩ := Nat.exists_eq_add_of_lt enough
      cases segment.eq_of_nil
      rfl
  | cons cell rest ih =>
      obtain ⟨a, value⟩ := cell
      obtain ⟨rfl, next, here, back⟩ := Segment.cons_iff.mp segment
      cases fuel with
      | zero => exact absurd enough (Nat.not_lt_zero _)
      | succ fuel =>
          rw [Store.findLoop, here]
          dsimp only
          rw [List.find?_cons]
          cases meets value with
          | true => rfl
          | false => exact ih back (Nat.lt_of_succ_lt_succ enough)

variable [DecidableEq α]

theorem push (listed : Listed s cells) {a : α} (fresh : a ∉ cells.map Prod.fst) (value : β) :
    Listed (s.push a value) ((a, value) :: cells) := by
  refine ⟨.cons a value s.head cells none (Function.update_self ..) ?_,
    List.nodup_cons.mpr ⟨fresh, listed.distinct⟩⟩
  refine listed.segment.transport fun b member => Function.update_of_ne ?_ ..
  rintro rfl
  exact fresh member

/-- A cell that is out of the list is released. -/
theorem free (listed : Listed s cells) {a : α} (gone : a ∉ cells.map Prod.fst) :
    Listed (s.free a) cells := by
  refine ⟨listed.segment.transport fun b member => Function.update_of_ne ?_ .., listed.distinct⟩
  rintro rfl
  exact gone member

/-- A cell is written in place. -/
theorem set (listed : Listed s cells) (a : α) (value : β) :
    Listed (s.set a value) (cells.map fun cell => if cell.1 = a then (a, value) else cell) := by
  have written : ∀ {p q : Option α} {cells : List (α × β)}, Segment s.heap p cells q →
      Segment (s.set a value).heap p
        (cells.map fun cell => if cell.1 = a then (a, value) else cell) q := by
    intro p q cells segment
    induction segment with
    | nil p => exact .nil p
    | cons b old next rest q here _ ih =>
        by_cases same : b = a
        · subst same
          rw [List.map_cons, if_pos rfl]
          refine .cons b value next _ q ?_ ih
          change Function.update s.heap b _ b = _
          rw [Function.update_self, here]
          rfl
        · rw [List.map_cons, if_neg same]
          refine .cons b old next _ q ?_ ih
          change Function.update s.heap a _ b = _
          rw [Function.update_of_ne same, here]
  refine ⟨written listed.segment, ?_⟩
  rw [List.map_map]
  have addresses : (Prod.fst ∘ fun cell : α × β => if cell.1 = a then (a, value) else cell) =
      Prod.fst := by
    funext cell
    by_cases same : cell.1 = a
    · simp [same]
    · simp [same]
  rw [addresses]
  exact listed.distinct

/-! ## Taking a cell out -/

/-- The place of the pointer that a walk along some cells ends at. -/
def placeAfter (front : List (α × β)) : Place α :=
  match front.getLast? with
  | none => .head
  | some cell => .next cell.1

omit [DecidableEq α] in
theorem read_placeAfter {front : List (α × β)} {p : Option α}
    (segment : Segment s.heap s.head front p) : s.read (placeAfter front) = some p := by
  rcases List.eq_nil_or_concat' front with rfl | ⟨before, ⟨a, value⟩, rfl⟩
  · exact congrArg some segment.eq_of_nil
  · obtain ⟨_, here⟩ := Segment.snoc_iff.mp segment
    simp only [placeAfter, List.getLast?_concat, Store.read, here, Option.map_some]

/-- A pointer written at the end of a walk redirects the walk. -/
theorem write_placeAfter {front : List (α × β)} {p : Option α}
    (segment : Segment s.heap s.head front p) (distinct : (front.map Prod.fst).Nodup)
    (q : Option α) :
    Segment (s.write (placeAfter front) q).heap (s.write (placeAfter front) q).head front q ∧
      ∀ a ∉ front.map Prod.fst, (s.write (placeAfter front) q).heap a = s.heap a := by
  rcases List.eq_nil_or_concat' front with rfl | ⟨before, ⟨a, value⟩, rfl⟩
  · exact ⟨.nil q, fun _ _ => rfl⟩
  obtain ⟨walk, here⟩ := Segment.snoc_iff.mp segment
  rw [List.map_append, List.map_singleton] at distinct ⊢
  have outside : ∀ b, b ≠ a → (s.write (.next a) q).heap b = s.heap b :=
    fun b differs => Function.update_of_ne differs ..
  rw [show placeAfter (before ++ [(a, value)]) = .next a by
    rw [placeAfter, List.getLast?_concat]]
  refine ⟨Segment.snoc_iff.mpr ⟨?_, ?_⟩, ?_⟩
  · refine walk.transport fun b member => outside b ?_
    rintro rfl
    exact (List.nodup_append.mp distinct).2.2 b member b (List.mem_singleton_self b) rfl
  · change Function.update s.heap a _ a = _
    rw [Function.update_self, here]
    rfl
  · intro b notListed
    refine outside b ?_
    rintro rfl
    exact notListed (List.mem_append_right _ (List.mem_singleton_self b))

/-- The walk from a place on. -/
theorem unlinkLoop_eq (target : α) {front back : List (α × β)} {p : Option α}
    (walked : Segment s.heap s.head front p) (ahead : Segment s.heap p back none)
    (distinct : ((front ++ back).map Prod.fst).Nodup) (notYet : target ∉ front.map Prod.fst)
    {fuel : ℕ} (enough : back.length < fuel) :
    ∃ after, s.unlinkLoop target fuel (placeAfter front) = some after ∧
      Listed after ((front ++ back).filter fun cell => decide (cell.1 ≠ target)) ∧
      ∀ a, a = target ∨ a ∉ (front ++ back).map Prod.fst → after.heap a = s.heap a := by
  have kept : ∀ cells : List (α × β), target ∉ cells.map Prod.fst →
      cells.filter (fun cell => decide (cell.1 ≠ target)) = cells := by
    intro cells absent
    refine List.filter_eq_self.mpr fun cell member => decide_eq_true ?_
    rintro rfl
    exact absent (List.mem_map_of_mem member)
  induction back generalizing front p fuel with
  | nil =>
      cases fuel with
      | zero => exact absurd enough (Nat.not_lt_zero _)
      | succ fuel =>
      cases ahead.eq_of_nil
      refine ⟨s, ?_, ?_, fun _ _ => rfl⟩
      · rw [Store.unlinkLoop, read_placeAfter walked]
      · rw [List.append_nil] at distinct ⊢
        rw [kept front notYet]
        exact ⟨walked, distinct⟩
  | cons cell rest ih =>
      obtain ⟨a, value⟩ := cell
      obtain ⟨rfl, next, here, back⟩ := Segment.cons_iff.mp ahead
      cases fuel with
      | zero => exact absurd enough (Nat.not_lt_zero _)
      | succ fuel =>
      rw [Store.unlinkLoop, read_placeAfter walked]
      dsimp only
      by_cases found : a = target
      · subst found
        rw [if_pos rfl, here, Option.map_some]
        rw [List.map_append, List.map_cons] at distinct
        obtain ⟨frontDistinct, backDistinct, apart⟩ := List.nodup_append.mp distinct
        obtain ⟨absent, _⟩ := List.nodup_cons.mp backDistinct
        obtain ⟨redirected, outside⟩ := write_placeAfter walked frontDistinct next
        refine ⟨_, rfl, ?_, ?_⟩
        · rw [List.filter_append, kept front notYet, List.filter_cons_of_neg (by simp),
            kept rest absent]
          refine ⟨redirected.append (back.transport fun b member => outside b ?_), ?_⟩
          · intro inFront
            exact apart b inFront b (List.mem_cons_of_mem a member) rfl
          · rw [List.map_append]
            exact distinct.sublist (.append (.refl _) (List.sublist_cons_self _ _))
        · rintro b (rfl | notListed)
          · exact outside b notYet
          · refine outside b fun inFront => notListed ?_
            rw [List.map_append]
            exact List.mem_append_left _ inFront
      · rw [if_neg found]
        have further : Segment s.heap s.head (front ++ [(a, value)]) next :=
          Segment.snoc_iff.mpr ⟨walked, here⟩
        have place : placeAfter (front ++ [(a, value)]) = .next a := by
          rw [placeAfter, List.getLast?_concat]
        have same : front ++ (a, value) :: rest = front ++ [(a, value)] ++ rest := by simp
        rw [same] at distinct ⊢
        rw [← place]
        refine ih further back distinct ?_ (Nat.lt_of_succ_lt_succ enough)
        rw [List.map_append, List.mem_append]
        rintro (inFront | here)
        · exact notYet inFront
        · exact found (List.mem_singleton.mp here).symm

/-- **Taking out the cell at an address** leaves the list of the others, and the cell as it is. -/
theorem unlink (listed : Listed s cells) (target : α) {fuel : ℕ} (enough : cells.length < fuel) :
    ∃ after, s.unlinkLoop target fuel .head = some after ∧
      Listed after (cells.filter fun cell => decide (cell.1 ≠ target)) ∧
      ∀ a, a = target ∨ a ∉ cells.map Prod.fst → after.heap a = s.heap a :=
  unlinkLoop_eq target (.nil s.head) listed.segment listed.distinct (by simp) enough

end Listed

/-! ## Nothing else is allocated -/

namespace Owned

variable {s : Store α β} {cells : List (α × β)}

/-- Nothing is allocated, and the list is empty. -/
theorem empty : Owned (⟨fun _ => none, none⟩ : Store α β) [] :=
  ⟨⟨.nil none, List.nodup_nil⟩, fun _ _ => rfl⟩

theorem not_mem (owned : Owned s cells) {a : α} (free : s.heap a = none) :
    a ∉ cells.map Prod.fst := by
  intro member
  obtain ⟨cell, inList, rfl⟩ := List.mem_map.mp member
  obtain ⟨_, here⟩ := owned.segment.allocated inList
  cases here.symm.trans free

/-- What is found at the address of a cell. -/
theorem value (owned : Owned s cells) {a : α} {value : β} (member : (a, value) ∈ cells) :
    (s.heap a).map Cell.value = some value := by
  obtain ⟨next, here⟩ := owned.segment.allocated member
  rw [here]
  rfl

variable [DecidableEq α]

theorem push (owned : Owned s cells) {a : α} (free : s.heap a = none) (value : β) :
    Owned (s.push a value) ((a, value) :: cells) where
  toListed := owned.toListed.push (owned.not_mem free) value
  exact b absent := by
    obtain ⟨differs, notListed⟩ := List.ne_and_not_mem_of_not_mem_cons absent
    exact (Function.update_of_ne differs ..).trans (owned.exact b notListed)

theorem set (owned : Owned s cells) (a : α) (value : β) :
    Owned (s.set a value) (cells.map fun cell => if cell.1 = a then (a, value) else cell) where
  toListed := owned.toListed.set a value
  exact b absent := by
    have notListed : b ∉ cells.map Prod.fst := by
      intro member
      obtain ⟨cell, inList, rfl⟩ := List.mem_map.mp member
      refine absent (List.mem_map.mpr ⟨_, List.mem_map_of_mem inList, ?_⟩)
      split
      · rename_i same
        exact same.symm
      · rfl
    have free := owned.exact b notListed
    change Function.update s.heap a _ b = none
    by_cases same : b = a
    · subst same
      rw [Function.update_self, free]
      rfl
    · rw [Function.update_of_ne same, free]

/-- **A cell that is taken out can be released**, and then nothing but the others is allocated. -/
theorem unlink (owned : Owned s cells) {target : α} (member : target ∈ cells.map Prod.fst)
    {fuel : ℕ} (enough : cells.length < fuel) :
    ∃ after, s.unlinkLoop target fuel .head = some after ∧ (after.heap target).isSome = true ∧
      Owned (after.free target) (cells.filter fun cell => decide (cell.1 ≠ target)) := by
  obtain ⟨after, unlinked, listed, kept⟩ := owned.toListed.unlink target enough
  have gone : target ∉ (cells.filter fun cell => decide (cell.1 ≠ target)).map Prod.fst := by
    intro still
    obtain ⟨cell, inList, same⟩ := List.mem_map.mp still
    exact of_decide_eq_true (List.mem_filter.mp inList).2 same
  refine ⟨after, unlinked, ?_, listed.free gone, ?_⟩
  · obtain ⟨cell, inList, rfl⟩ := List.mem_map.mp member
    obtain ⟨_, here⟩ := owned.segment.allocated inList
    rw [kept cell.1 (.inl rfl), here]
    rfl
  · intro b absent
    change Function.update after.heap target none b = none
    by_cases same : b = target
    · rw [same, Function.update_self]
    · have notListed : b ∉ cells.map Prod.fst := by
        intro inList
        obtain ⟨cell, inCells, rfl⟩ := List.mem_map.mp inList
        exact absent (List.mem_map_of_mem (List.mem_filter.mpr ⟨inCells, decide_eq_true same⟩))
      rw [Function.update_of_ne same, kept b (.inr notListed), owned.exact b notListed]

end Owned

end LinkedList
