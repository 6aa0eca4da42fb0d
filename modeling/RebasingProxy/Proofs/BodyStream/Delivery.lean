import RebasingProxy.Proofs.BodyStream

/-! # What a rebasing stream delivers

The line buffer of a stream keeps track of the chunks taken and the data delivered, so
at every moment the data delivered is the rebased form of the chunks but for the bytes held.
A body that ends delivers its whole rebased form and then its trailers. A body that fails has
delivered the rebased form of a beginning, and the failure is handed on with one warning.
-/
namespace RebasingProxy.BodyStream

section Relaying
variable (lines : LineBuffer)

theorem relayAll_bases (items : List Item) :
    (relayAll lines items).2.bases = lines.bases ∧
      (relayAll lines items).2.maxLine = lines.maxLine := by
  induction items generalizing lines with
  | nil => exact ⟨rfl,rfl⟩
  | cons item items ih =>
    obtain ⟨hbases,hmax⟩ := ih (relay lines item).2
    cases item <;> simpa [relayAll, relay] using And.intro hbases hmax

variable {lines} in
theorem relay_tracks {pushed sent : Bytes} (h : lines.Tracks pushed sent) (item : Item) :
    (relay lines item).2.Tracks (pushed ++ item.bytes)
      (sent ++ (relay lines item).1.flatMap Sight.bytes) := by
  cases item with
  | data chunk =>
    have hpush := h.push chunk
    by_cases hout : (lines.push chunk).1.isEmpty
    · have hnil : (lines.push chunk).1 = [] := by simpa using hout
      rw [hnil] at hpush
      simpa [relay, hout, Item.bytes] using hpush
    · simpa [relay, hout, Item.bytes, Sight.bytes] using hpush
  | trailers fields => simpa [relay, Item.bytes] using h
  | failure reason => simpa [relay, Item.bytes, Sight.bytes] using h
  | pending => simpa [relay, Item.bytes, Sight.bytes] using h

variable {lines} in
theorem relayAll_tracks {pushed sent : Bytes} (h : lines.Tracks pushed sent) (items : List Item) :
    (relayAll lines items).2.Tracks (pushed ++ items.flatMap Item.bytes)
      (sent ++ (relayAll lines items).1.flatMap Sight.bytes) := by
  induction items generalizing lines pushed sent with
  | nil => simpa [relayAll] using h
  | cons item items ih => simpa [relayAll, List.append_assoc] using ih (relay_tracks h item)

def Sight.IsQuiet (sight : Sight) : Prop :=
  ∃ item, sight = { answer := some item } ∧ item.isQuiet = true

theorem relay_quiet {item : Item} (h : item.isQuiet = true) :
    ∀ sight ∈ (relay lines item).1, sight.IsQuiet := by
  cases item with
  | data chunk =>
    intro sight hsight
    by_cases hout : (lines.push chunk).1.isEmpty
    · simp [relay, hout] at hsight
    · obtain rfl : sight = { answer := some (.data (lines.push chunk).1) } := by
        simpa [relay, hout] using hsight
      exact ⟨_,rfl,rfl⟩
  | trailers fields => simp [Item.isQuiet, Item.fields?] at h
  | failure reason => simp [Item.isQuiet, Item.isFailure] at h
  | pending =>
    intro sight hsight
    exact ⟨.pending,List.mem_singleton.mp hsight,rfl⟩

theorem relayAll_quiet {items : List Item} (h : ∀ item ∈ items, item.isQuiet = true) :
    ∀ sight ∈ (relayAll lines items).1, sight.IsQuiet := by
  induction items generalizing lines with
  | nil => simp [relayAll]
  | cons item items ih =>
    obtain ⟨hitem,hitems⟩ := List.forall_mem_cons.mp h
    intro sight hsight
    simp only [relayAll, List.mem_append] at hsight
    rcases hsight with hsight | hsight
    · exact relay_quiet lines hitem sight hsight
    · exact ih _ hitems sight hsight

theorem exists_items_of_quiet {sights : List Sight} (h : ∀ sight ∈ sights, sight.IsQuiet) :
    ∃ items : List Item, sights = items.map (fun item => { answer := some item }) ∧
      (∀ item ∈ items, item.isQuiet = true) ∧
      items.flatMap Item.bytes = sights.flatMap Sight.bytes := by
  induction sights with
  | nil => exact ⟨[],rfl,by simp,rfl⟩
  | cons sight sights ih =>
    obtain ⟨⟨item,rfl,hitem⟩,hrest⟩ := List.forall_mem_cons.mp h
    obtain ⟨items,rfl,hitems,hbytes⟩ := ih hrest
    refine ⟨item :: items,rfl,List.forall_mem_cons.mpr ⟨hitem,hitems⟩,?_⟩
    rw [List.flatMap_cons, hbytes]
    rfl

theorem closing_answers (trailers : Option Headers) :
    (closing lines trailers).map (·.answer) =
      (lines.finish.1.toList.map Item.data ++ trailers.toList.map Item.trailers).map some := by
  simp [closing, Function.comp_def]

theorem bytes_of_rest (rest : Option Bytes) :
    (rest.toList.map Item.data).flatMap Item.bytes = rest.getD [] := by
  cases rest <;> simp [Item.bytes]

end Relaying

/-- A body that does not fail: polled up to the first end, the stream delivers its whole rebased
form in data frames, then its trailers if there are any, and nothing else. -/
theorem rebasing_delivers (bases : Bases) (maxLine : Nat) (script : List Item)
    (h : ∀ item ∈ script, item.isFailure = false) :
    ∃ early : List Item,
      let frames := early ++ (Item.firstFields? script).toList.map Item.trailers
      ((rebasing script bases maxLine).watch (frames.length + 1)).map (·.answer) =
        frames.map some ++ [none] ∧
      (∀ item ∈ early, item.isQuiet = true) ∧
      early.flatMap Item.bytes =
        bases.rebasedLines ((Item.beforeTrailers script).flatMap Item.bytes) := by
  have hquiet : ∀ item ∈ Item.beforeTrailers script, item.isQuiet = true := by
    intro item hitem
    have hfields := Item.fields?_of_mem_beforeTrailers hitem
    have hfailure := h item ((List.takeWhile_sublist _).mem hitem)
    simp [Item.isQuiet, hfields, hfailure]
  have htracks := relayAll_tracks (LineBuffer.tracks_fresh bases maxLine)
    (Item.beforeTrailers script)
  have hkept := relayAll_bases (LineBuffer.fresh bases maxLine) (Item.beforeTrailers script)
  obtain ⟨items,hitems,hall,hbytes⟩ :=
    exists_items_of_quiet (relayAll_quiet (LineBuffer.fresh bases maxLine) hquiet)
  let rest := (relayAll (LineBuffer.fresh bases maxLine) (Item.beforeTrailers script)).2.finish.1
  let trailers := (Item.firstFields? script).toList.map Item.trailers
  have hanswers : (sights (LineBuffer.fresh bases maxLine) script).map (·.answer) =
      (items ++ rest.toList.map Item.data ++ trailers).map some := by
    rw [sights, List.map_append, closing_answers, hitems]
    simp [rest, trailers, Function.comp_def]
  refine ⟨items ++ rest.toList.map Item.data,?_,?_,?_⟩
  · have hwatch := watch_midway 0 (LineBuffer.fresh bases maxLine) script 1
    have hlen := congrArg List.length hanswers
    rw [List.length_map, List.length_map] at hlen
    rw [hlen] at hwatch
    have hall := congrArg (List.map (·.answer)) hwatch
    rw [List.map_append, hanswers] at hall
    exact hall
  · intro item hitem
    rcases List.mem_append.mp hitem with hitem | hitem
    · exact hall item hitem
    · obtain ⟨out,_,rfl⟩ := List.mem_map.mp hitem
      rfl
  · have hsent := htracks.sent_append
    rw [hkept.1] at hsent
    rw [List.flatMap_append, hbytes, bytes_of_rest]
    exact hsent

/-- A match cut by an empty poll, a line flushed at every byte, and fields behind them. -/
theorem rebasing_delivers_cut_match :
    let script : List Item :=
      [.data [97], .pending, .data [97, 10, 97], .data [], .trailers ⟨[("x", [1])]⟩]
    (∀ item ∈ script, item.isFailure = false) ∧ ∃ early : List Item,
      let frames := early ++ [.trailers ⟨[("x", [1])]⟩]
      ((rebasing script ⟨[97, 97],[98]⟩ 0).watch (frames.length + 1)).map (·.answer) =
        frames.map some ++ [none] ∧
      (∀ item ∈ early, item.isQuiet = true) ∧ early.flatMap Item.bytes = [98, 10, 97] := by
  have hsound : ∀ item ∈ ([.data [97], .pending, .data [97, 10, 97], .data [],
      .trailers ⟨[("x", [1])]⟩] : List Item), item.isFailure = false := by decide
  obtain ⟨early,hanswers,hquiet,hbytes⟩ := rebasing_delivers ⟨[97, 97],[98]⟩ 0 _ hsound
  have hbody : Bases.rebasedLines ⟨[97, 97],[98]⟩ [97, 97, 10, 97] = [98, 10, 97] := by cbv
  exact ⟨hsound,early,hanswers,hquiet,hbytes.trans hbody⟩

/-- A body that fails before its trailers: what was delivered until then is the rebased form of
all chunks but the bytes held, which are less than a line and bounded in number, and
every continuation of the body would have gone on from there. The poll that meets the failure hands
it on, logs one warning with the number of bytes held, and does not end the stream. -/
theorem failing_delivers (bases : Bases) (maxLine : Nat) (script rest : List Item) (reason : String)
    (h : ∀ item ∈ script, item.isQuiet = true) :
    ∃ (early : List Item) (taken held : Bytes) (event : Event),
      (rebasing (script ++ .failure reason :: rest) bases maxLine).watch (early.length + 1) =
        early.map (fun item => { answer := some item }) ++
          [{ answer := some (.failure reason), events := [event], isEnd := false }] ∧
      (∀ item ∈ early, item.isQuiet = true) ∧
      script.flatMap Item.bytes = taken ++ held ∧
      early.flatMap Item.bytes = bases.rebasedLines taken ∧
      Bytes.lineFeed ∉ held ∧ held.length ≤ max maxLine (max bases.internal.length 1 - 1) ∧
      (∀ more, early.flatMap Item.bytes <+:
        bases.rebasedLines (script.flatMap Item.bytes ++ more)) ∧
      event.level = .warn ∧ event.fields.lookup "pending" = some (.count held.length) := by
  have hfields : ∀ item ∈ script, item.fields? = none := by
    intro item hitem
    have hquiet := h item hitem
    simp only [Item.isQuiet, Bool.and_eq_true, Option.isNone_iff_eq_none] at hquiet
    exact hquiet.1
  let lines := (relayAll (LineBuffer.fresh bases maxLine) script).2
  have htracks : lines.Tracks _ _ := relayAll_tracks (LineBuffer.tracks_fresh bases maxLine) script
  obtain ⟨hbases,hmax⟩ : lines.bases = bases ∧ lines.maxLine = maxLine := relayAll_bases _ script
  obtain ⟨taken,hpushed,hsettled⟩ := htracks.settled
  rw [hbases] at hsettled
  obtain ⟨items,hitems,hall,hbytes⟩ :=
    exists_items_of_quiet (relayAll_quiet (LineBuffer.fresh bases maxLine) h)
  have hsent : items.flatMap Item.bytes = bases.rebasedLines taken :=
    hbytes.trans hsettled.sent_eq
  refine ⟨items,taken,lines.held,.bodyFailedMidLine reason lines.held.length,?_,hall,hpushed,hsent,
    htracks.steady.free,?_,?_,rfl,rfl⟩
  · have hwatch := watch_relayAll 0 (LineBuffer.fresh bases maxLine) hfields
      (.failure reason :: rest) 1
    rw [hitems, List.length_map] at hwatch
    exact hwatch
  · have hbound := htracks.steady.bounded
    rw [hbases, hmax, Bases.overlap] at hbound
    omega
  · intro more
    have hwhole := hsettled (lines.held ++ more) (Or.inr (List.prefix_append _ _))
    rw [← List.append_assoc, ← hpushed, ← hbytes] at hwhole
    exact ⟨_,hwhole.symm⟩

/-- A failure in the middle of a line, one byte of which is held. -/
theorem failing_delivers_held_byte :
    (∀ item ∈ ([.data [97, 97, 10, 97], .pending] : List Item), item.isQuiet = true) ∧
    ∃ (early : List Item) (taken held : Bytes) (event : Event),
      (rebasing [.data [97, 97, 10, 97], .pending, .failure "reset"] ⟨[97, 97],[98]⟩ 1).watch
          (early.length + 1) =
        early.map (fun item => { answer := some item }) ++
          [{ answer := some (.failure "reset"), events := [event], isEnd := false }] ∧
      [97, 97, 10, 97] = taken ++ held ∧ Bytes.lineFeed ∉ held ∧ held.length ≤ 1 ∧
      early.flatMap Item.bytes = Bases.rebasedLines ⟨[97, 97],[98]⟩ taken ∧
      event.fields.lookup "pending" = some (.count held.length) := by
  have hquiet : ∀ item ∈ ([.data [97, 97, 10, 97], .pending] : List Item),
      item.isQuiet = true := by decide
  obtain ⟨early,taken,held,event,hsights,_,hbody,hsent,hfree,hlen,_,_,hcount⟩ :=
    failing_delivers ⟨[97, 97],[98]⟩ 1 _ [] "reset" hquiet
  exact ⟨hquiet,early,taken,held,event,hsights,hbody,hfree,hlen,hsent,hcount⟩

end RebasingProxy.BodyStream
