import RebasingProxy.Proofs.Exchange.Destination
import RebasingProxy.Proofs.LineBuffer

/-! # Links that lead back

A link of the backend reaches the client under the external base. When the client asks for it, or
for a beginning of it, the bind path gives way to the backend's path again, so the path asked of the
backend is the one the backend wrote. Only the first occurrence counts on both ways, in a body
because reading goes on behind it and in a path because it is the one in front.
-/
namespace RebasingProxy
open Occurrence

/-- A line whose first link is the one between `front` and `back`, with no other behind it. -/
structure FirstLink (base front back : Bytes) : Prop where
  line : Bytes.lineFeed ∉ front ++ (base ++ back)
  first : ∀ before after, front ++ (base ++ back) = before ++ (base ++ after) →
    front.length ≤ before.length
  last : ¬ base <:+: back

theorem Bases.rebasedLine_firstLink {bases : Bases} (hp : bases.internal ≠ [])
    {front back : Bytes} (h : FirstLink bases.internal front back) :
    bases.rebasedLine (front ++ (bases.internal ++ back)) = front ++ (bases.external ++ back) := by
  have hfront : PassedOver bases.internal front bases.internal :=
    PassedOver.of_prefix (passedOver_iff.mpr h.first) (List.prefix_append _ _)
  rw [rebasedLine, replaced_append_pattern _ hp hfront, replaced_of_not_infix _ h.last]

theorem Bytes.append_ofText_prefix {front back : Bytes} {rest : String}
    (h : ofText rest <+: back) (base : String) :
    front ++ ofText (base ++ rest) <+: front ++ (ofText base ++ back) := by
  rw [ofText_append, List.prefix_append_right_inj, List.prefix_append_right_inj]
  exact h

namespace Exchange

/-- The link is shown under the external base, and whoever follows it, or a beginning of it, has the
backend asked for the path the backend wrote. -/
theorem shown_link_leads_back {config : Config}
    (hslash : Path.endsInSlash config.bindPath = true)
    (hbase : config.bindAddress ++ config.backendPath ≠ "") {front back : Bytes}
    (hlink : FirstLink (Bytes.ofText (config.bindAddress ++ config.backendPath)) front back) :
    let written := front ++ (Bytes.ofText (config.bindAddress ++ config.backendPath) ++ back)
    let shown := front ++ (Bytes.ofText (config.bindAddress ++ config.bindPath) ++ back)
    config.bases.rebase written = shown ∧
    (∀ (maxLine : Nat) (chunks : List Bytes), chunks.flatten = written →
      (LineBuffer.fresh config.bases maxLine).streamed chunks = shown) ∧
    ∀ rest : String, Bytes.ofText rest <+: back →
      front ++ Bytes.ofText (config.bindAddress ++ config.backendPath ++ rest) <+: written ∧
      front ++ Bytes.ofText (config.bindAddress ++ config.bindPath ++ rest) <+: shown ∧
      Path.isBoundBy (config.bindPath ++ rest) config.bindPath = true ∧
      Path.rebased (config.bindPath ++ rest) config.bindPath config.backendPath =
        config.backendPath ++ rest ∧
      ∀ query, target config { path := config.bindPath ++ rest, query := query } =
        config.backendScheme ++ "://" ++ config.backendHost ++ (config.backendPath ++ rest) ++
          Uri.queryText query := by
  intro written shown
  have hp : config.bases.internal ≠ [] := fun hempty => hbase (Bytes.ofText_eq_nil_iff.mp hempty)
  have hline : config.bases.rebasedLine written = shown := Bases.rebasedLine_firstLink hp hlink
  have hfree : Bytes.lineFeed ∉ written := hlink.line
  refine ⟨?_,?_,?_⟩
  · rw [Bases.rebase_eq_rebasedLine, hline]
  · intro maxLine chunks hchunks
    rw [LineBuffer.streamed_fresh, hchunks, Bases.rebasedLines_of_notMem _ hfree, hline]
  · intro rest hrest
    have hbound : Path.isBoundBy (config.bindPath ++ rest) config.bindPath = true :=
      Path.isBoundBy_iff.mpr ⟨rest,rfl,Or.inr hslash⟩
    refine ⟨Bytes.append_ofText_prefix hrest _,Bytes.append_ofText_prefix hrest _,hbound,
      Path.rebased_append _ _ _,?_⟩
    intro query
    rw [target, Path.rebased_append]

/-- A base that overlaps itself, and a bind path that comes again in the link. -/
theorem shown_link_leads_back_overlap :
    let config : Config := { bindAddress := "/a", bindPath := "/x/", backendPath := "/a/" }
    let front := Bytes.ofText "<"
    let back := Bytes.ofText "a/x/>"
    config.validate = .ok () ∧ Path.endsInSlash config.bindPath = true ∧
      config.bindAddress ++ config.backendPath ≠ "" ∧
      FirstLink (Bytes.ofText (config.bindAddress ++ config.backendPath)) front back ∧
      config.bases.rebase (Bytes.ofText "</a/a/a/x/>") = Bytes.ofText "</a/x/a/x/>" ∧
      Path.rebased "/x/a/x/" config.bindPath config.backendPath = "/a/a/x/" := by
  intro config front back
  have hslash : Path.endsInSlash config.bindPath = true := by decide
  have hbase : config.bindAddress ++ config.backendPath ≠ "" := by decide
  have hinternal : Bytes.ofText (config.bindAddress ++ config.backendPath) =
      [47, 97, 47, 97, 47] := by decide
  have hfront : front = [60] := by decide
  have hlink : FirstLink (Bytes.ofText (config.bindAddress ++ config.backendPath)) front back := by
    refine ⟨by decide,?_,by decide⟩
    intro before after htext
    cases before with
    | nil =>
      rw [hinternal, hfront] at htext
      simp at htext
    | cons b before => exact Nat.succ_le_succ (Nat.zero_le _)
  have hwritten : front ++ (Bytes.ofText (config.bindAddress ++ config.backendPath) ++ back) =
      Bytes.ofText "</a/a/a/x/>" := by decide
  have hshown : front ++ (Bytes.ofText (config.bindAddress ++ config.bindPath) ++ back) =
      Bytes.ofText "</a/x/a/x/>" := by decide
  obtain ⟨hline,_,hback⟩ := shown_link_leads_back hslash hbase hlink
  obtain ⟨_,_,_,hpath,_⟩ := hback "a/x/" (by decide)
  rw [hwritten, hshown] at hline
  exact ⟨by decide,hslash,hbase,hlink,hline,hpath⟩

end Exchange

end RebasingProxy
