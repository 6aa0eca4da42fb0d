import Mathlib.Data.List.Nodup
import RebasingProxy.Toml.Document

/-! # The keys of a document

No statement of a document gives a key of its table a second time: a key that is there already is
changed in its place, moves to the end or stands in the way of the statement.
-/
namespace RebasingProxy.Toml

def keys (entries : Entries) : List String := entries.map (·.1)

section Keys
variable {entries result : Entries} {name : String} {value : Value}

theorem lookup_eq_none_iff_notMem : entries.lookup name = none ↔ name ∉ keys entries := by
  simp only [List.lookup_eq_none_iff, keys, List.mem_map, bne_iff_ne, not_exists, not_and]
  constructor
  · rintro h entry hentry rfl
    exact h entry hentry rfl
  · rintro h entry hentry rfl
    exact h entry hentry rfl

theorem keys_setEntry : keys (setEntry name value entries) = keys entries := by
  simp only [keys, setEntry, List.map_map]
  apply List.map_congr_left
  intro entry _
  by_cases h : entry.1 = name
  · simp [h]
  · simp [h]

theorem nodup_append_one (h : (keys entries).Nodup) (hnew : name ∉ keys entries) :
    (keys (entries ++ [(name, value)])).Nodup := by
  have hkeys : keys (entries ++ [(name, value)]) = (keys entries).concat name := by simp [keys]
  rw [hkeys]
  exact h.concat hnew

def KeepsApart (change : TableKind → Entries → Option Entries) : Prop :=
  ∀ ⦃kind entries result⦄, change kind entries = some result → (keys entries).Nodup →
    (keys result).Nodup

theorem keepsApart_changeAt (byDots : Bool) {change : TableKind → Entries → Option Entries}
    (hchange : KeepsApart change) (path : List String) :
    KeepsApart (changeAt byDots change path) := by
  intro kind entries result h hentries
  cases path with
  | nil => exact hchange h hentries
  | cons name path =>
    simp only [changeAt] at h
    split at h
    · rename_i hnone
      obtain ⟨inner,_,hinner⟩ := Option.bind_eq_some_iff.mp h
      obtain rfl := Option.some.inj hinner
      exact nodup_append_one hentries (lookup_eq_none_iff_notMem.mp hnone)
    · obtain ⟨last,_,hlast⟩ := Option.bind_eq_some_iff.mp h
      obtain ⟨inner,_,hinner⟩ := Option.bind_eq_some_iff.mp hlast
      obtain rfl := Option.some.inj hinner
      rwa [keys_setEntry]
    · split at h
      · cases h
      · obtain ⟨inner,_,hinner⟩ := Option.bind_eq_some_iff.mp h
        obtain rfl := Option.some.inj hinner
        rwa [keys_setEntry]
    · cases h

theorem keepsApart_addEntry (key : Key) (value : Value) : KeepsApart (addEntry key value) := by
  intro kind entries result h hentries
  simp only [addEntry] at h
  split at h
  · cases h
  · rename_i hfree
    obtain rfl := Option.some.inj h
    have hnone : entries.lookup key.name = none := by
      simp only [Bool.or_eq_true, not_or, Option.isSome_iff_ne_none, not_not] at hfree
      exact hfree.2
    exact nodup_append_one hentries (lookup_eq_none_iff_notMem.mp hnone)

theorem nodup_openTable {key : Key} (h : openTable key entries = some result)
    (hentries : (keys entries).Nodup) : (keys result).Nodup := by
  refine keepsApart_changeAt false ?_ key.path h hentries
  intro kind entries result h hentries
  dsimp only at h
  split at h
  · rename_i hnone
    obtain rfl := Option.some.inj h
    exact nodup_append_one hentries (lookup_eq_none_iff_notMem.mp hnone)
  · obtain rfl := Option.some.inj h
    apply nodup_append_one
    · exact hentries.sublist (List.filter_sublist.map _)
    · simp [keys]
  · cases h

theorem nodup_openElement {key : Key} (h : openElement key entries = some result)
    (hentries : (keys entries).Nodup) : (keys result).Nodup := by
  refine keepsApart_changeAt false ?_ key.path h hentries
  intro kind entries result h hentries
  dsimp only at h
  split at h
  · rename_i hnone
    obtain rfl := Option.some.inj h
    exact nodup_append_one hentries (lookup_eq_none_iff_notMem.mp hnone)
  · obtain rfl := Option.some.inj h
    rwa [keys_setEntry]
  · cases h

theorem nodup_add {draft next : Draft} {statement : Statement}
    (h : draft.add statement = some next) (hdraft : (keys draft.root).Nodup) :
    (keys next.root).Nodup := by
  cases statement with
  | pair key value =>
    obtain ⟨root,hroot,hnext⟩ := Option.bind_eq_some_iff.mp h
    obtain rfl := Option.some.inj hnext
    have hplace : KeepsApart (place key value) := by
      intro kind entries result hresult
      exact keepsApart_changeAt true (keepsApart_addEntry key value) key.path hresult
    exact keepsApart_changeAt false hplace draft.opened hroot hdraft
  | table key =>
    obtain ⟨root,hroot,hnext⟩ := Option.bind_eq_some_iff.mp h
    obtain rfl := Option.some.inj hnext
    exact nodup_openTable hroot hdraft
  | element key =>
    obtain ⟨root,hroot,hnext⟩ := Option.bind_eq_some_iff.mp h
    obtain rfl := Option.some.inj hnext
    exact nodup_openElement hroot hdraft

theorem nodup_of_statements {statements : List (List Char × Statement)} {draft last : Draft}
    (h : statements.foldlM (fun draft s => draft.add s.2) draft = some last)
    (hdraft : (keys draft.root).Nodup) : (keys last.root).Nodup := by
  induction statements generalizing draft with
  | nil =>
    obtain rfl := Option.some.inj h
    exact hdraft
  | cons statement rest ih =>
    rw [List.foldlM_cons] at h
    obtain ⟨next,hnext,hrest⟩ := Option.bind_eq_some_iff.mp h
    exact ih hrest (nodup_add hnext hdraft)

theorem nodup_keys_parseDocument {text : String} (h : parseDocument text = some entries) :
    (keys entries).Nodup := by
  obtain ⟨statements,_,hrun⟩ := Option.bind_eq_some_iff.mp h
  obtain ⟨draft,hdraft,hroot⟩ := Option.bind_eq_some_iff.mp hrun
  obtain rfl := Option.some.inj hroot
  exact nodup_of_statements hdraft List.nodup_nil

end Keys

end RebasingProxy.Toml
