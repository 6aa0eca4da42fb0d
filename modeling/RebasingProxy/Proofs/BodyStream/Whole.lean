import RebasingProxy.Proofs.BodyStream.Delivery

/-! # Bodies that arrive whole

A body arrives whole if nothing in it fails and no data stands behind trailers. Polled up to its
first end, a stream over it hands out all of it, as it came or rebased line by line, in
whatever frames it came.
-/
namespace RebasingProxy
namespace Item

/-- Nothing fails, and no data stands behind trailers. -/
def AreWhole (items : List Item) : Prop :=
  (∀ item ∈ items, item.isFailure = false) ∧
    (items.dropWhile fun item => item.fields?.isNone).flatMap bytes = []

instance (items : List Item) : Decidable (AreWhole items) := inferInstanceAs (Decidable (_ ∧ _))

theorem AreWhole.bytes_beforeTrailers {items : List Item} (h : AreWhole items) :
    (beforeTrailers items).flatMap bytes = items.flatMap bytes := by
  have hsplit := congrArg (List.flatMap bytes)
    (List.takeWhile_append_dropWhile (p := fun item : Item => item.fields?.isNone) (l := items))
  rwa [List.flatMap_append, h.2, List.append_nil] at hsplit

end Item

namespace BodyStream

def Sight.IsSound (sight : Sight) : Prop :=
  ∃ item, sight.answer = some item ∧ item.isFailure = false

/-- Polled up to its first end, the stream fails nowhere, and these are the bytes of its frames. -/
def Delivers (stream : BodyStream) (body : Bytes) : Prop :=
  ∃ early : List Sight, stream.watch (early.length + 1) = early ++ [ended] ∧
    (∀ sight ∈ early, sight.IsSound) ∧ early.flatMap Sight.bytes = body

theorem Sight.IsQuiet.isSound {sight : Sight} (h : sight.IsQuiet) : sight.IsSound := by
  obtain ⟨item,rfl,hitem⟩ := h
  simp only [Item.isQuiet, Bool.and_eq_true, Bool.not_eq_true'] at hitem
  exact ⟨item,rfl,hitem.2⟩

section Rebasing
variable (lines : LineBuffer) (trailers : Option Headers)

theorem isSound_of_closing : ∀ sight ∈ closing lines trailers, sight.IsSound := by
  intro sight hsight
  simp only [closing, List.mem_append, List.mem_map] at hsight
  rcases hsight with ⟨out,_,rfl⟩ | ⟨fields,_,rfl⟩
  · exact ⟨.data out,rfl,rfl⟩
  · exact ⟨.trailers fields,rfl,rfl⟩

theorem bytes_of_closing :
    (closing lines trailers).flatMap Sight.bytes = lines.finish.1.getD [] := by
  cases hrest : lines.finish.1 <;> cases trailers <;> simp [closing, hrest, Sight.bytes, Item.bytes]

theorem isSound_of_sights {items : List Item} (h : ∀ item ∈ items, item.isFailure = false) :
    ∀ sight ∈ sights lines items, sight.IsSound := by
  have hquiet : ∀ item ∈ Item.beforeTrailers items, item.isQuiet = true := by
    intro item hitem
    have hfields := Item.fields?_of_mem_beforeTrailers hitem
    have hfailure := h item ((List.takeWhile_sublist _).mem hitem)
    simp [Item.isQuiet, hfields, hfailure]
  intro sight hsight
  rcases List.mem_append.mp hsight with hsight | hsight
  · exact (relayAll_quiet lines hquiet sight hsight).isSound
  · exact isSound_of_closing _ _ sight hsight

theorem bytes_of_sights (bases : Bases) (maxLine : Nat) (items : List Item) :
    (sights (LineBuffer.fresh bases maxLine) items).flatMap Sight.bytes =
      bases.rebasedLines ((Item.beforeTrailers items).flatMap Item.bytes) := by
  have hsent := (relayAll_tracks (LineBuffer.tracks_fresh bases maxLine)
    (Item.beforeTrailers items)).sent_append
  rw [(relayAll_bases (LineBuffer.fresh bases maxLine) (Item.beforeTrailers items)).1] at hsent
  rw [sights, List.flatMap_append, bytes_of_closing]
  exact hsent

end Rebasing

/-- A whole body is handed out with its lines rebased, whatever its frames. -/
theorem delivers_rebasing {items : List Item} (h : Item.AreWhole items) (bases : Bases)
    (maxLine : Nat) :
    (rebasing items bases maxLine).Delivers (bases.rebasedLines (items.flatMap Item.bytes)) := by
  refine ⟨sights (LineBuffer.fresh bases maxLine) items,watch_midway 0 _ items 1,
    isSound_of_sights _ h.1,?_⟩
  rw [bytes_of_sights, h.bytes_beforeTrailers]

def untouched (item : Item) : Sight :=
  { answer := some item
    events := match item with
      | .failure reason => [.bodyFailed reason]
      | _ => [] }

theorem poll_passThrough (item : Item) (items : List Item) :
    (passThrough (item :: items)).poll =
      ⟨some item,(untouched item).events,passThrough items⟩ := by
  cases item <;> rfl

theorem watch_passThrough_append (items rest : List Item) (count : Nat) :
    (passThrough (items ++ rest)).watch (items.length + count) =
      items.map untouched ++ (passThrough rest).watch count := by
  induction items with
  | nil => rw [List.length_nil, Nat.zero_add]; rfl
  | cons item items ih =>
    have hwatch := watch_of_poll (poll_passThrough item (items ++ rest)) (items.length + count)
    rw [ih] at hwatch
    rw [List.length_cons, Nat.add_comm items.length 1, Nat.add_assoc]
    exact hwatch

theorem watch_passThrough (items : List Item) :
    (passThrough items).watch (items.length + 1) = items.map untouched ++ [ended] := by
  have hwatch := watch_passThrough_append items [] 1
  rwa [List.append_nil] at hwatch

/-- A body in which nothing fails is handed out as it came. -/
theorem delivers_passThrough {items : List Item} (h : ∀ item ∈ items, item.isFailure = false) :
    (passThrough items).Delivers (items.flatMap Item.bytes) := by
  refine ⟨items.map untouched,?_,?_,?_⟩
  · rw [List.length_map, watch_passThrough]
  · intro sight hsight
    obtain ⟨item,hitem,rfl⟩ := List.mem_map.mp hsight
    exact ⟨item,rfl,h item hitem⟩
  · simp only [List.flatMap_map]
    rfl

end BodyStream

end RebasingProxy
