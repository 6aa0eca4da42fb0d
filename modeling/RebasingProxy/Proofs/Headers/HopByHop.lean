import Mathlib.Data.List.DropRight
import RebasingProxy.Proofs.Headers

/-! # Which fields end with a connection

A token of a field is said without cutting and trimming: a stretch of a text value between two
commas, less the blanks around it, whatever the case of its letters. A message loses the fields
that always end with a connection and those its `connection` fields name, and nothing else.
-/
namespace RebasingProxy.Headers

/-- A stretch of the text without commas, between two commas or an end of the text. -/
def IsPiece (text piece : List Char) : Prop :=
  ',' ∉ piece ∧ ∃ before after, text = before ++ (piece ++ after) ∧
    (before = [] ∨ [','] <:+ before) ∧ (after = [] ∨ [','] <+: after)

theorem mem_splitOn_of_isPiece {text piece : List Char} (h : IsPiece text piece) :
    piece ∈ text.splitOn ',' := by
  obtain ⟨hfree,before,after,rfl,hbefore,hafter⟩ := h
  have hfirst : piece ∈ (piece ++ after).splitOn ',' := by
    rcases hafter with rfl | ⟨rest,rfl⟩
    · rw [List.append_nil, List.splitOn_eq_singleton hfree]
      exact List.mem_singleton_self _
    · rw [List.singleton_append, List.splitOn_append_cons_self_of_not_mem hfree]
      exact List.mem_cons_self
  rcases hbefore with rfl | ⟨front,rfl⟩
  · exact hfirst
  · rw [List.append_assoc, List.singleton_append, List.splitOn_append_cons_self]
    exact List.mem_append_right _ hfirst

theorem isPiece_of_mem_splitOn {text piece : List Char} (h : piece ∈ text.splitOn ',') :
    IsPiece text piece := by
  by_cases hcomma : ',' ∈ text
  · obtain ⟨first,rest,htext,hfree⟩ := List.eq_append_cons_of_mem hcomma
    rw [htext, List.splitOn_append_cons_self_of_not_mem hfree] at h
    rcases List.mem_cons.mp h with rfl | hrest
    · exact ⟨hfree,[],',' :: rest,htext,Or.inl rfl,Or.inr ⟨rest,rfl⟩⟩
    · obtain ⟨hpiece,before,after,rfl,hbefore,hafter⟩ := isPiece_of_mem_splitOn hrest
      refine ⟨hpiece,first ++ ',' :: before,after,by simp [htext],Or.inr ?_,hafter⟩
      rcases hbefore with rfl | ⟨front,rfl⟩
      · exact ⟨first,rfl⟩
      · exact ⟨first ++ ',' :: front,by simp⟩
  · rw [List.splitOn_eq_singleton hcomma, List.mem_singleton] at h
    exact ⟨h ▸ hcomma,[],[],by simp [h],Or.inl rfl,Or.inl rfl⟩
termination_by text.length
decreasing_by simp [htext]; omega

/-- The piece is the core with blanks around it, and neither end of the core is blank. -/
def IsCore (piece core : List Char) : Prop :=
  (∃ front back, piece = front ++ (core ++ back) ∧
    (∀ c ∈ front, isBlank c = true) ∧ ∀ c ∈ back, isBlank c = true) ∧
  (∀ c ∈ core.head?, isBlank c = false) ∧ ∀ c ∈ core.getLast?, isBlank c = false

theorem notBlank_of_dropWhile {text : List Char} {c : Char}
    (h : c ∈ (text.dropWhile isBlank).head?) : isBlank c = false := by
  have hhead := List.head?_dropWhile_not isBlank text
  rw [h] at hhead
  exact hhead

theorem dropWhile_blanks_append {front rest : List Char} (hfront : ∀ c ∈ front, isBlank c = true)
    (hrest : ∀ c ∈ rest.head?, isBlank c = false) : (front ++ rest).dropWhile isBlank = rest := by
  rw [List.dropWhile_append_of_pos hfront]
  cases rest with
  | nil => rfl
  | cons c rest => simp [hrest c rfl]

theorem isCore_trimBlanks (piece : List Char) : IsCore piece (trimBlanks piece) := by
  let inner := piece.dropWhile isBlank
  have hsplit : trimBlanks piece ++ inner.rtakeWhile isBlank = inner :=
    List.rdropWhile_append_rtakeWhile
  refine ⟨⟨piece.takeWhile isBlank,inner.rtakeWhile isBlank,?_,?_,?_⟩,?_,?_⟩
  · rw [hsplit, List.takeWhile_append_dropWhile]
  · exact fun c hc => List.mem_takeWhile_imp hc
  · exact fun c hc => List.mem_rtakeWhile_imp hc
  · intro c hc
    have hinner : c ∈ inner.head? := by
      rw [← hsplit, List.head?_append, hc]
      rfl
    exact notBlank_of_dropWhile hinner
  · intro c hc
    rw [trimBlanks, List.getLast?_reverse] at hc
    exact notBlank_of_dropWhile hc

/-- The core of a piece is settled by the piece. -/
theorem trimBlanks_eq_iff {piece core : List Char} :
    trimBlanks piece = core ↔ IsCore piece core := by
  constructor
  · rintro rfl
    exact isCore_trimBlanks piece
  · rintro ⟨⟨front,back,rfl,hfront,hback⟩,hhead,hlast⟩
    have hbehind : (back.reverse ++ core.reverse).dropWhile isBlank = core.reverse := by
      apply dropWhile_blanks_append
      · simpa using hback
      · simpa using hlast
    cases core with
    | nil =>
      have hall : (front ++ ([] ++ back)).dropWhile isBlank = [] := by
        rw [List.dropWhile_append_of_pos hfront]
        exact List.dropWhile_eq_nil_iff.mpr hback
      rw [trimBlanks, hall]
      rfl
    | cons c core =>
      rw [trimBlanks, dropWhile_blanks_append hfront (by simpa using hhead), List.reverse_append,
        hbehind, List.reverse_reverse]

/-- One of the text values of the field has the token: a piece of it, less the blanks around it and
whatever the case of its letters. -/
def Lists (headers : Headers) (field token : String) : Prop :=
  ∃ value ∈ headers.values field, ∃ text, headerText? value = some text ∧
    ∃ piece core, IsPiece text.toList piece ∧ IsCore piece core ∧
      lowerCase (String.ofList core) = token

theorem mem_tokens {headers : Headers} {field token : String} :
    token ∈ headers.tokens field ↔ headers.Lists field token := by
  simp only [tokens, List.mem_flatMap, List.mem_filterMap, List.mem_map]
  constructor
  · rintro ⟨text,⟨value,hvalue,htext⟩,piece,hpiece,htoken⟩
    exact ⟨value,hvalue,text,htext,piece,_,isPiece_of_mem_splitOn hpiece,isCore_trimBlanks piece,
      htoken⟩
  · rintro ⟨value,hvalue,text,htext,piece,core,hpiece,hcore,htoken⟩
    refine ⟨text,⟨value,hvalue,htext⟩,piece,mem_splitOn_of_isPiece hpiece,?_⟩
    rw [trimBlanks_eq_iff.mpr hcore, htoken]

instance (headers : Headers) (field token : String) : Decidable (headers.Lists field token) :=
  decidable_of_iff _ mem_tokens

def NamedByConnection (headers : Headers) (name : String) : Prop :=
  name ≠ "" ∧ headers.Lists "connection" name

instance (headers : Headers) (name : String) : Decidable (headers.NamedByConnection name) :=
  inferInstanceAs (Decidable (_ ∧ _))

theorem mem_connectionNames {headers : Headers} {name : String} :
    name ∈ headers.connectionNames ↔ headers.NamedByConnection name := by
  simp [connectionNames, NamedByConnection, mem_tokens, and_comm]

/-- The field ends with the connection, as it always does or because the connection names it. -/
def EndsHere (headers : Headers) (name : String) : Prop :=
  name ∈ hopByHopNames ∨ headers.NamedByConnection name

instance (headers : Headers) (name : String) : Decidable (headers.EndsHere name) :=
  inferInstanceAs (Decidable (_ ∨ _))

theorem endsHere_iff_named {headers : Headers} {name : String} (h : name ∉ hopByHopNames) :
    headers.EndsHere name ↔ headers.NamedByConnection name := or_iff_right h

theorem values_withoutHopByHop (headers : Headers) (name : String) :
    headers.withoutHopByHop.values name =
      if headers.EndsHere name then [] else headers.values name := by
  have hnames : name ∈ hopByHopNames ++ headers.connectionNames ↔ headers.EndsHere name := by
    rw [List.mem_append, mem_connectionNames, EndsHere]
  rw [withoutHopByHop, values_foldl_remove]
  exact if_congr hnames rfl rfl

theorem endsHere_congr {first second : Headers}
    (h : first.values "connection" = second.values "connection") (name : String) :
    first.EndsHere name ↔ second.EndsHere name := by
  simp only [EndsHere, NamedByConnection, Lists, h]

end RebasingProxy.Headers
