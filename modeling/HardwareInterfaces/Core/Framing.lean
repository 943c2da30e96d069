import Mathlib

/-!
# Frames of a stream

A stream of items is cut after every item that ends a frame; what follows the
last such item waits for the items to come.  The stream alone decides on the
frames: whoever takes complete frames off its front has taken the first ones.
-/

namespace HardwareInterfaces.Framing

variable {Item : Type*} (ends : Item → Bool)

/-- Items of which the last ends a frame, and no other does. -/
def IsFrame (frame : List Item) : Prop :=
  ∃ body last, frame = body ++ [last] ∧ ends last = true ∧
    ∀ item ∈ body, ends item = false

/-- The frames of the items, and the items after them. -/
def cut : List Item → List (List Item) × List Item
  | [] => ([], [])
  | item :: items =>
    if ends item then ([item] :: (cut items).1, (cut items).2)
    else
      match cut items with
      | ([], rest) => ([], item :: rest)
      | (frame :: frames, rest) => ((item :: frame) :: frames, rest)

/-- Take the first frame off the items. -/
def popFrame (items : List Item) : Option (List Item × List Item) :=
  (items.findIdx? ends).map fun index =>
    (items.take (index + 1), items.drop (index + 1))

variable {ends}

variable {items : List Item}

theorem cut_of_open (hopen : ∀ item ∈ items, ends item = false) :
    cut ends items = ([], items) := by
  induction items with
  | nil => rfl
  | cons item items ih =>
    obtain ⟨hitem, hitems⟩ := List.forall_mem_cons.mp hopen
    rw [cut, hitem, ih hitems]
    rfl

theorem cut_frame_append {frame : List Item} (hframe : IsFrame ends frame)
    (rest : List Item) :
    cut ends (frame ++ rest) =
      (frame :: (cut ends rest).1, (cut ends rest).2) := by
  obtain ⟨body, last, rfl, hlast, hbody⟩ := hframe
  induction body with
  | nil =>
    rw [List.nil_append, List.singleton_append, cut, if_pos hlast]
  | cons item body ih =>
    obtain ⟨hitem, hitems⟩ := List.forall_mem_cons.mp hbody
    rw [List.cons_append, List.cons_append, cut, hitem, ih hitems]
    rfl

/-- Frames at the front of a stream are its first frames. -/
theorem cut_flatten_append {frames : List (List Item)}
    (hframes : ∀ frame ∈ frames, IsFrame ends frame) (rest : List Item) :
    cut ends (frames.flatten ++ rest) =
      (frames ++ (cut ends rest).1, (cut ends rest).2) := by
  induction frames with
  | nil => rfl
  | cons frame frames ih =>
    obtain ⟨hframe, hrest⟩ := List.forall_mem_cons.mp hframes
    rw [List.flatten_cons, List.append_assoc, cut_frame_append hframe, ih hrest]
    rfl

theorem popFrame_eq_none :
    popFrame ends items = none ↔ ∀ item ∈ items, ends item = false := by
  rw [popFrame, Option.map_eq_none_iff, List.findIdx?_eq_none_iff]

theorem popFrame_eq_some {frame rest : List Item}
    (hpop : popFrame ends items = some (frame, rest)) :
    IsFrame ends frame ∧ frame ++ rest = items := by
  obtain ⟨index, hindex, heq⟩ := Option.map_eq_some_iff.mp hpop
  cases heq
  obtain ⟨hlt, hends, hbefore⟩ := List.findIdx?_eq_some_iff_getElem.mp hindex
  refine ⟨⟨items.take index, items[index], ?_, hends, ?_⟩,
    List.take_append_drop (index + 1) items⟩
  · exact List.take_succ_eq_append_getElem hlt
  · intro item hitem
    obtain ⟨position, hposition, rfl⟩ := List.mem_take_iff_getElem.mp hitem
    exact eq_false_of_ne_true (hbefore position (Nat.lt_min.mp hposition).1)

end HardwareInterfaces.Framing
