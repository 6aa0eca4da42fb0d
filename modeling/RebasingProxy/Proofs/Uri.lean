import RebasingProxy.Proofs.Uri.Authority
import RebasingProxy.Uri

/-! # Reading URIs

A scheme and an authority in front of a text are read back as they were written, up to the
first character that ends the authority. Paths and queries that were read hold nothing but
characters that may stand there, and paths and queries of such characters are read as they are.
-/
namespace RebasingProxy.Uri
open Authority

structure Proper (uri : Uri) : Prop where
  path : uri.path.toList.all isPathChar = true
  query : ∀ words ∈ uri.query, words.toList.all isQueryChar = true

theorem queryText_eq_elim (query : Option String) : queryText query = query.elim "" ("?" ++ ·) := by
  cases query <;> rfl

theorem all_of_readPath {text : List Char} {path : String} {query : Option String}
    (h : readPath text = .ok (path, query)) : path.toList.all isPathChar = true ∧
      ∀ words ∈ query, words.toList.all isQueryChar = true := by
  simp only [readPath] at h
  obtain ⟨hall,h⟩ := guard_eq_ok.mp h
  rw [Bool.not_eq_true', Bool.not_eq_false] at hall
  split at h
  · obtain ⟨hquery,h⟩ := guard_eq_ok.mp h
    rw [Bool.not_eq_true', Bool.not_eq_false] at hquery
    cases h
    exact ⟨by simpa using hall,by simpa using hquery⟩
  · cases h
    exact ⟨by simpa using hall,nofun⟩

theorem notEnds_of_isPathChar {c : Char} (h : isPathChar c = true) :
    (c != '?' && c != '#') = true := by
  have hquery : c ≠ '?' := by rintro rfl; exact absurd h (by decide)
  have hfragment : c ≠ '#' := by rintro rfl; exact absurd h (by decide)
  simp [hquery, hfragment]

theorem notFragment_of_isQueryChar {c : Char} (h : isQueryChar c = true) :
    (c != '#') = true := by
  have hfragment : c ≠ '#' := by rintro rfl; exact absurd h (by decide)
  simp [hfragment]

/-- A path and a query of characters that may stand there are read as they are. -/
theorem readPath_append {path : List Char} (hpath : path.all isPathChar = true)
    (query : Option String) (hquery : ∀ words ∈ query, words.toList.all isQueryChar = true) :
    readPath (path ++ (queryText query).toList) = .ok (String.ofList path, query) := by
  have hplain : ∀ c ∈ path, (c != '?' && c != '#') = true := fun c hc =>
    notEnds_of_isPathChar (List.all_eq_true.mp hpath c hc)
  cases query with
  | none =>
    have hread : (path.takeWhile fun c => c != '?' && c != '#') = path :=
      List.takeWhile_eq_self_iff.mpr hplain
    simp [readPath, queryText, hread, hpath]
    rfl
  | some words =>
    have hwords := hquery words rfl
    have hread : ((path ++ '?' :: words.toList).takeWhile fun c => c != '?' && c != '#') =
        path := by
      rw [List.takeWhile_append_of_pos hplain]
      simp
    have hrest : words.toList.takeWhile (· != '#') = words.toList :=
      List.takeWhile_eq_self_iff.mpr fun c hc =>
        notFragment_of_isQueryChar (List.all_eq_true.mp hwords c hc)
    have htext : path ++ (queryText (some words)).toList = path ++ '?' :: words.toList := by
      simp [queryText]
    rw [htext]
    simp only [readPath, hread, hpath, List.drop_left, hrest, hwords, String.ofList_toList]
    rfl

theorem readAddressed_eq_ok {scheme rest : List Char}
    (hs : scheme = "http".toList ∨ scheme = "https".toList) {uri : Uri} :
    readAddressed (scheme ++ "://".toList ++ rest) = .ok uri ↔
      leading rest ≠ [] ∧ check (leading rest) = .ok () ∧
      ∃ path query, readPath (rest.drop (leading rest).length) = .ok (path, query) ∧
        uri = { scheme := some (String.ofList scheme)
                authority := some (String.ofList (leading rest))
                path := if path.isEmpty then "/" else path, query := query } := by
  have hscheme : readScheme (scheme ++ "://".toList ++ rest) =
      .ok (some (String.ofList scheme), rest) := by
    rcases hs with rfl | rfl <;> rfl
  have hrest : leading rest ≠ [] → rest ≠ [] := by
    rintro hne rfl
    exact hne rfl
  simp only [readAddressed, hscheme, bind_eq_ok, guard_eq_ok, Except.ok.injEq, exists_eq_left',
    List.isEmpty_iff]
  constructor
  · rintro ⟨_,_,hcheck,hne,⟨path,query⟩,hpath,h⟩
    cases h
    exact ⟨hne,hcheck,path,query,hpath,rfl⟩
  · rintro ⟨hne,hcheck,path,query,hpath,rfl⟩
    exact ⟨hrest hne,(),hcheck,hne,⟨path,query⟩,hpath,rfl⟩

theorem parse_of_long {text : String} (h : maxLength < text.utf8ByteSize) :
    parse text = .error .tooLong := by
  rw [parse, if_pos h]

theorem parse_of_head {text : String} {first : Char} (h : text.toList.head? = some first)
    (hstar : text ≠ "*") {uri : Uri} :
    parse text = .ok uri ↔ text.utf8ByteSize ≤ maxLength ∧
      (if first = '/' then do
        let (path, query) ← readPath text.toList
        return { path := path, query := query }
      else readAddressed text.toList) = .ok uri := by
  have hempty : text ≠ "" := by
    rintro rfl
    cases h
  unfold parse
  by_cases hsize : text.utf8ByteSize > maxLength
  · simp [hsize, Nat.not_le.mpr hsize]
  · simp [hsize, Nat.not_lt.mp hsize, hempty, hstar, h]

/-- A text with one of the two schemes in front is a URI if it is not too long, begins with an
authority, and goes on with a path and a query. -/
theorem parse_addressed_eq_ok {scheme rest : String} (hs : scheme = "http" ∨ scheme = "https")
    {uri : Uri} :
    parse (scheme ++ "://" ++ rest) = .ok uri ↔
      (scheme ++ "://" ++ rest).utf8ByteSize ≤ maxLength ∧
      leading rest.toList ≠ [] ∧ check (leading rest.toList) = .ok () ∧
      ∃ path query,
        readPath (rest.toList.drop (leading rest.toList).length) = .ok (path, query) ∧
        uri = { scheme := some scheme, authority := some (String.ofList (leading rest.toList))
                path := if path.isEmpty then "/" else path, query := query } := by
  have hlist : scheme.toList = "http".toList ∨ scheme.toList = "https".toList :=
    hs.imp (congrArg String.toList) (congrArg String.toList)
  have hhead : (scheme ++ "://" ++ rest).toList.head? = some 'h' := by
    rcases hs with rfl | rfl <;> simp
  have hstar : scheme ++ "://" ++ rest ≠ "*" := by
    intro h
    rw [h] at hhead
    cases hhead
  rw [parse_of_head hhead hstar, if_neg (by decide), String.toList_append,
    String.toList_append, readAddressed_eq_ok hlist, String.ofList_toList]

theorem parse_pathAndQuery {path : String} (hhead : path.toList.head? = some '/')
    (hpath : path.toList.all isPathChar = true) (query : Option String)
    (hquery : ∀ words ∈ query, words.toList.all isQueryChar = true)
    (hsize : (path ++ queryText query).utf8ByteSize ≤ maxLength) :
    parse (path ++ queryText query) = .ok { path := path, query := query } := by
  have hfirst : (path ++ queryText query).toList.head? = some '/' := by
    rw [String.toList_append, List.head?_append, hhead]
    rfl
  have hstar : path ++ queryText query ≠ "*" := by
    intro h
    rw [h] at hfirst
    cases hfirst
  rw [parse_of_head hfirst hstar, if_pos rfl, String.toList_append,
    readPath_append hpath query hquery, String.ofList_toList]
  exact ⟨hsize,rfl⟩

theorem proper_of_readAddressed {text : List Char} {uri : Uri}
    (h : readAddressed text = .ok uri) : Proper uri := by
  simp only [readAddressed, bind_eq_ok, guard_eq_ok] at h
  obtain ⟨⟨scheme,rest⟩,_,_,_,_,h⟩ := h
  cases scheme with
  | none =>
    obtain ⟨_,h⟩ := guard_eq_ok.mp h
    cases h
    exact ⟨rfl,nofun⟩
  | some scheme =>
    obtain ⟨_,h⟩ := guard_eq_ok.mp h
    obtain ⟨⟨path,query⟩,hread,hpure⟩ := bind_eq_ok.mp h
    obtain ⟨hpath,hquery⟩ := all_of_readPath hread
    cases hpure
    refine ⟨?_,hquery⟩
    by_cases hempty : path.isEmpty = true
    · simp only [if_pos hempty]
      decide
    · simpa only [if_neg hempty] using hpath

theorem proper_of_parse {text : String} {uri : Uri} (h : parse text = .ok uri) : Proper uri := by
  by_cases hstar : text = "*"
  · subst hstar
    cases h
    exact ⟨by decide,nofun⟩
  · cases hhead : text.toList.head? with
    | none =>
      obtain rfl : text = "" := by simpa using hhead
      cases h
    | some first =>
      obtain ⟨_,h⟩ := (parse_of_head hhead hstar).mp h
      split at h
      · obtain ⟨⟨path,query⟩,hread,hpure⟩ := bind_eq_ok.mp h
        obtain ⟨hpath,hquery⟩ := all_of_readPath hread
        cases hpure
        exact ⟨hpath,hquery⟩
      · exact proper_of_readAddressed h

end RebasingProxy.Uri
