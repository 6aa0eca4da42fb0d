import Mathlib.Data.List.Induction
import Mathlib.Data.List.TakeWhile
import RebasingProxy.CommandLine
import RebasingProxy.Proofs.Result

/-! # What a command line spells

An argument gives switches with their values, or names a switch last whose value is the next
argument. Read that way, a command line spells a list of switches with their values, and reading it
from left to right, where a switch waits until the next one is taken, comes to taking the switches
of that list one after the other.
-/
namespace RebasingProxy

namespace Switch

theorem ofLong?_eq_some {name : String} {switch : Switch} :
    ofLong? name = some switch ↔ switch.long = name := by
  constructor
  · intro h
    simpa using List.find?_some h
  · rintro rfl
    cases switch <;> decide

theorem ofShort?_eq_some {c : Char} {switch : Switch} :
    ofShort? c = some switch ↔ switch.short? = some c := by
  constructor
  · intro h
    simpa using List.find?_some h
  · intro h
    cases switch <;> simp only [short?, reduceCtorEq, Option.some.injEq] at h <;> subst h <;> decide

theorem equals_notMem_long (switch : Switch) : '=' ∉ switch.long.toList := by
  cases switch <;> decide

theorem long_ne_empty (switch : Switch) : switch.long ≠ "" := by
  cases switch <;> decide

theorem short?_ne_dash (switch : Switch) : switch.short? ≠ some '-' := by
  cases switch <;> decide

/-- How a switch is written, and whether a value belongs to it. -/
structure Form where
  name : String
  letter : Option Char := none
  valued : Bool := true

def form : Switch → Form
  | config => { name := "--config", letter := some 'c' }
  | bindAddress => { name := "--ba" }
  | bindPath => { name := "--bp" }
  | backendHost => { name := "--ph" }
  | backendPath => { name := "--pp" }
  | backendScheme => { name := "--ps" }
  | replaceHost => { name := "--rewrite-host", letter := some 'r', valued := false }
  | keepHost => { name := "--no-rewrite-host", valued := false }
  | context => { name := "--ctx" }
  | rebasedType => { name := "--rewrite-type" }
  | timeout => { name := "--timeout" }
  | maxLine => { name := "--max-line-bytes" }
  | help => { name := "--help", letter := some 'h', valued := false }
  | version => { name := "--version", letter := some 'V', valued := false }

theorem form_name (switch : Switch) : switch.form.name = "--" ++ switch.long := by
  cases switch <;> decide

theorem form_letter (switch : Switch) : switch.form.letter = switch.short? := by
  cases switch <;> rfl

theorem form_valued (switch : Switch) : switch.form.valued = switch.takesValue := by
  cases switch <;> rfl

end Switch

namespace CommandLine

/-- What the letters behind a single dash give. The last switch may have its value attached,
possibly behind an equals sign, or wait for it. -/
inductive Cluster : List Char → List (Switch × String) → Option Switch → Prop
  | nil : Cluster [] [] none
  | flag {switch : Switch} {c : Char} {letters : List Char} {given : List (Switch × String)}
      {last : Option Switch} (hshort : switch.form.letter = some c)
      (hflag : switch.form.valued = false) (hrest : Cluster letters given last) :
      Cluster (c :: letters) ((switch, "") :: given) last
  | attached {switch : Switch} {c : Char} {value : String} (hshort : switch.form.letter = some c)
      (hvalue : switch.form.valued = true) (hne : value ≠ "")
      (hplain : value.toList.head? ≠ some '=') : Cluster (c :: value.toList) [(switch, value)] none
  | assigned {switch : Switch} {c : Char} {value : String} (hshort : switch.form.letter = some c)
      (hvalue : switch.form.valued = true) :
      Cluster (c :: '=' :: value.toList) [(switch, value)] none
  | waits {switch : Switch} {c : Char} (hshort : switch.form.letter = some c)
      (hvalue : switch.form.valued = true) : Cluster [c] [] (some switch)

/-- What one argument gives, and the switch whose value is the next argument. -/
inductive Opens : String → List (Switch × String) → Option Switch → Prop
  | flag {switch : Switch} (hflag : switch.form.valued = false) :
      Opens switch.form.name [(switch, "")] none
  | assigned {switch : Switch} {value : String} (hvalue : switch.form.valued = true) :
      Opens (switch.form.name ++ "=" ++ value) [(switch, value)] none
  | waits {switch : Switch} (hvalue : switch.form.valued = true) :
      Opens switch.form.name [] (some switch)
  | cluster {c : Char} {letters : List Char} {given : List (Switch × String)}
      {last : Option Switch} (hletters : Cluster (c :: letters) given last) :
      Opens (String.ofList ('-' :: c :: letters)) given last

/-- An argument that is no switch: it does not begin with a dash, or is nothing but one. -/
def IsPlain (argument : String) : Prop := argument = "-" ∨ argument.toList.head? ≠ some '-'

/-- The switches a command line gives, in order, with their values. -/
inductive Spells : List String → List (Switch × String) → Prop
  | nil : Spells [] []
  | stop : Spells ["--"] []
  | next {argument : String} {rest : List String} {given more : List (Switch × String)}
      (hopens : Opens argument given none) (hrest : Spells rest more) :
      Spells (argument :: rest) (given ++ more)
  | value {argument value : String} {rest : List String} {given more : List (Switch × String)}
      {switch : Switch} (hopens : Opens argument given (some switch)) (hplain : IsPlain value)
      (hrest : Spells rest more) :
      Spells (argument :: value :: rest) (given ++ (switch, value) :: more)

def takeAll (scan : Scan) (given : List (Switch × String)) : Except Halt Scan :=
  given.foldlM (fun scan entry => settleOne scan entry.1 (some entry.2)) scan

def waiting (scan : Scan) : Option Switch → Scan
  | none => scan
  | some switch => { scan with pending := some (switch, none) }

section Settling
variable {scan next : Scan} {switch : Switch}

theorem settleOne_eq_ok {value : String} (h : settleOne scan switch (some value) = .ok next) :
    ∃ arguments, note scan.arguments switch value = .ok arguments ∧
      next = { scan with arguments := arguments, given := addGiven scan.given switch } := by
  have hrecord : settleOne.record scan switch value = .ok next := by
    cases switch with
    | help | version => cases h
    | _ => exact h
  unfold settleOne.record at hrecord
  split at hrecord
  · cases hrecord
  · split at hrecord
    · cases hrecord
    · rename_i arguments hnote
      exact ⟨arguments,hnote,(Except.ok.inj hrecord).symm⟩

theorem settleOne_flag (h : switch.takesValue = false) :
    settleOne scan switch none = settleOne scan switch (some "") := by
  cases switch with
  | replaceHost | keepHost | help | version => rfl
  | _ => cases h

theorem settleOne_missing (h : switch.takesValue = true) :
    settleOne scan switch none = .error (.misuse (.missingValue switch)) := by
  cases switch with
  | replaceHost | keepHost | help | version => cases h
  | _ => rfl

theorem settleOne_keeps {value : Option String} (h : settleOne scan switch value = .ok next) :
    next.pending = scan.pending ∧ next.ended = scan.ended := by
  have hrecord : ∃ text, settleOne scan switch (some text) = .ok next := by
    cases value with
    | some text => exact ⟨text,h⟩
    | none =>
      cases hvalue : switch.takesValue with
      | false => exact ⟨"",settleOne_flag hvalue ▸ h⟩
      | true => cases (settleOne_missing hvalue).symm.trans h
  obtain ⟨text,htext⟩ := hrecord
  obtain ⟨arguments,_,rfl⟩ := settleOne_eq_ok htext
  exact ⟨rfl,rfl⟩

theorem settle_of_idle (h : scan.pending = none) : settle scan = .ok scan := by
  simp only [settle, h]

theorem settle_keeps (h : settle scan = .ok next) :
    next.pending = none ∧ next.ended = scan.ended := by
  unfold settle at h
  split at h
  · rename_i hidle
    obtain rfl := Except.ok.inj h
    exact ⟨hidle,rfl⟩
  · exact settleOne_keeps h

/-- That a switch has taken the last word of the line has no bearing on what is noted. -/
theorem settle_ended (ended : Bool) :
    (settle { scan with ended := ended }).map (·.arguments) = (settle scan).map (·.arguments) := by
  cases hpending : scan.pending with
  | none => simp [settle, hpending, Except.map]
  | some entry =>
    obtain ⟨switch,value⟩ := entry
    have hrecord : ∀ text : String,
        (settleOne.record { scan with pending := none, ended := ended } switch text).map
            (·.arguments) =
          (settleOne.record { scan with pending := none } switch text).map (·.arguments) := by
      intro text
      simp only [settleOne.record]
      split
      · rfl
      · cases note scan.arguments switch text <;> rfl
    simp only [settle, hpending]
    cases value with
    | none =>
      cases switch with
      | replaceHost | keepHost => exact hrecord ""
      | _ => rfl
    | some text =>
      cases switch with
      | help | version => rfl
      | _ => exact hrecord text

theorem takeAll_cons (scan : Scan) (switch : Switch) (value : String)
    (more : List (Switch × String)) :
    takeAll scan ((switch, value) :: more) =
      settleOne scan switch (some value) >>= fun next => takeAll next more :=
  List.foldlM_cons

theorem takeAll_append (scan : Scan) (given more : List (Switch × String)) :
    takeAll scan (given ++ more) = takeAll scan given >>= fun next => takeAll next more :=
  List.foldlM_append

theorem takeAll_keeps {given : List (Switch × String)} (h : takeAll scan given = .ok next) :
    next.pending = scan.pending ∧ next.ended = scan.ended := by
  induction given generalizing scan with
  | nil =>
    obtain rfl := Except.ok.inj h
    exact ⟨rfl,rfl⟩
  | cons entry more ih =>
    rw [takeAll_cons] at h
    obtain ⟨middle,hone,hmore⟩ := bind_eq_ok.mp h
    obtain ⟨hpending,hended⟩ := settleOne_keeps hone
    obtain ⟨hpending',hended'⟩ := ih hmore
    exact ⟨hpending'.trans hpending,hended'.trans hended⟩

end Settling

section Reading
variable {scan next : Scan} {given : List (Switch × String)} {last : Option Switch}
  {switch : Switch} {value : String}

def opened (given : List (Switch × String)) (last : Option Switch) (scan : Scan) :
    Except Halt Scan :=
  takeAll scan given >>= fun next => .ok (waiting next last)

theorem opened_cons (last : Option Switch) (scan : Scan) :
    opened ((switch, value) :: given) last scan =
      settleOne scan switch (some value) >>= opened given last := by
  simp only [opened, takeAll_cons, bind_assoc]
  rfl

theorem opened_one (scan : Scan) :
    opened [(switch, value)] none scan = settleOne scan switch (some value) := by
  rw [opened_cons]
  cases settleOne scan switch (some value) <;> rfl

theorem take_of_idle (h : scan.pending = none) (value : Option String) :
    take scan switch value = settleOne scan switch value := by
  simp only [take, settle_of_idle h]
  rfl

theorem await_of_idle (h : scan.pending = none) :
    await scan switch = opened [] (some switch) scan := by
  simp only [await, settle_of_idle h]
  rfl

/-- An argument that names a known switch takes the one that waits before it. -/
theorem readShort_settles {c : Char} (h : switch.short? = some c) (letters : List Char) :
    readShort scan (c :: letters) = settle scan >>= fun next => readShort next (c :: letters) := by
  simp only [readShort, Switch.ofShort?_eq_some.mpr h]
  cases hsettle : settle scan with
  | error halt => simp only [take, await, hsettle, bind, Except.bind, ite_self]
  | ok next =>
    have hidle : settle next = .ok next := settle_of_idle (settle_keeps hsettle).1
    simp only [take, await, hsettle, hidle, bind, Except.bind]

theorem readShort_of_value {c : Char} {letters : List Char} (hshort : switch.short? = some c)
    (hvalue : switch.takesValue = true) (hne : letters ≠ []) :
    readShort scan (c :: letters) = take scan switch (some (attachedValue letters)) := by
  have hsome : letters.isEmpty = false := List.isEmpty_eq_false_iff.mpr hne
  simp [readShort, Switch.ofShort?_eq_some.mpr hshort, hvalue, hsome]

theorem attachedValue_of_plain (h : value.toList.head? ≠ some '=') :
    attachedValue value.toList = value := by
  unfold attachedValue
  split
  · rename_i hvalue
    exact absurd (congrArg List.head? hvalue) h
  · exact String.ofList_toList

theorem readShort_of_cluster {letters : List Char} (h : Cluster letters given last)
    (hidle : scan.pending = none) : readShort scan letters = opened given last scan := by
  induction h generalizing scan with
  | nil => rfl
  | flag hshort hflag hrest ih =>
    rename_i switch c letters given last
    rw [Switch.form_letter] at hshort
    rw [Switch.form_valued] at hflag
    have hread : readShort scan (c :: letters) =
        settleOne scan switch none >>= fun next => readShort next letters := by
      simp [readShort, Switch.ofShort?_eq_some.mpr hshort, hflag, take_of_idle hidle]
    rw [hread, opened_cons, settleOne_flag hflag]
    cases hone : settleOne scan switch (some "") with
    | error halt => rfl
    | ok next => exact ih ((settleOne_keeps hone).1.trans hidle)
  | attached hshort hvalue hne hplain =>
    rw [Switch.form_letter] at hshort
    rw [Switch.form_valued] at hvalue
    rw [readShort_of_value hshort hvalue (by simpa using hne), take_of_idle hidle, opened_one,
      attachedValue_of_plain hplain]
  | assigned hshort hvalue =>
    rename_i switch c value
    rw [Switch.form_letter] at hshort
    rw [Switch.form_valued] at hvalue
    have hattached : attachedValue ('=' :: value.toList) = value := String.ofList_toList
    rw [readShort_of_value hshort hvalue (List.cons_ne_nil _ _), take_of_idle hidle, opened_one,
      hattached]
  | waits hshort hvalue =>
    rw [Switch.form_letter] at hshort
    rw [Switch.form_valued] at hvalue
    rw [← await_of_idle hidle]
    simp [readShort, Switch.ofShort?_eq_some.mpr hshort, hvalue]

theorem takeWhile_long (switch : Switch) {tail : List Char}
    (htail : tail.takeWhile (· != '=') = []) :
    (switch.long.toList ++ tail).takeWhile (· != '=') = switch.long.toList := by
  rw [List.takeWhile_append_of_pos, htail, List.append_nil]
  intro c hc
  have hne : c ≠ '=' := fun h => switch.equals_notMem_long (h ▸ hc)
  simpa using hne

theorem readLong_name (switch : Switch) :
    readLong scan switch.long.toList =
      if switch.takesValue then await scan switch else take scan switch none := by
  have hname : switch.long.toList.takeWhile (· != '=') = switch.long.toList := by
    simpa using takeWhile_long switch List.takeWhile_nil
  have hknown : Switch.ofLong? switch.long = some switch := Switch.ofLong?_eq_some.mpr rfl
  simp [readLong, hname, hknown]

theorem readLong_assigned (h : switch.takesValue = true) :
    readLong scan (switch.long.toList ++ '=' :: value.toList) = take scan switch (some value) := by
  have hname : (switch.long.toList ++ '=' :: value.toList).takeWhile (· != '=') =
      switch.long.toList := takeWhile_long switch rfl
  have hknown : Switch.ofLong? switch.long = some switch := Switch.ofLong?_eq_some.mpr rfl
  simp [readLong, hname, hknown, h]

theorem step_long (hended : scan.ended = false) (name : List Char) (hne : name ≠ [])
    {argument : String} (h : argument.toList = '-' :: '-' :: name) :
    step scan argument = readLong scan name := by
  cases name with
  | nil => exact absurd rfl hne
  | cons c rest => simp [step, hended, h]

theorem step_short {c : Char} {letters : List Char} (hended : scan.ended = false) (hne : c ≠ '-') :
    step scan (String.ofList ('-' :: c :: letters)) = readShort scan (c :: letters) := by
  simp [step, hended, hne]

theorem toList_long_ne_nil (switch : Switch) : switch.long.toList ≠ [] := by
  simpa using switch.long_ne_empty

theorem Cluster.letter_of_cons {c : Char} {letters : List Char}
    (h : Cluster (c :: letters) given last) : ∃ switch : Switch, switch.form.letter = some c := by
  cases h with
  | flag hshort => exact ⟨_,hshort⟩
  | attached hshort => exact ⟨_,hshort⟩
  | assigned hshort => exact ⟨_,hshort⟩
  | waits hshort => exact ⟨_,hshort⟩

theorem step_of_opens {argument : String} (hended : scan.ended = false)
    (h : Opens argument given last) :
    step scan argument = settle scan >>= opened given last := by
  cases h with
  | flag hflag =>
    rename_i switch
    rw [Switch.form_valued] at hflag
    have hone : opened [(switch, "")] none = fun next => settleOne next switch none := by
      funext next
      rw [opened_one, settleOne_flag hflag]
    rw [Switch.form_name, step_long hended switch.long.toList (toList_long_ne_nil switch) (by simp),
      readLong_name, hflag, hone]
    rfl
  | assigned hvalue =>
    rename_i switch value
    rw [Switch.form_valued] at hvalue
    have hone : opened [(switch, value)] none = fun next => settleOne next switch (some value) :=
      funext fun next => opened_one next
    rw [Switch.form_name,
      step_long hended (switch.long.toList ++ '=' :: value.toList) (by simp) (by simp),
      readLong_assigned hvalue, hone]
    rfl
  | waits hvalue =>
    rename_i switch
    rw [Switch.form_valued] at hvalue
    rw [Switch.form_name, step_long hended switch.long.toList (toList_long_ne_nil switch) (by simp),
      readLong_name, hvalue]
    rfl
  | cluster hletters =>
    rename_i c letters
    obtain ⟨switch,hshort⟩ := hletters.letter_of_cons
    rw [Switch.form_letter] at hshort
    have hdash : c ≠ '-' := by
      rintro rfl
      exact switch.short?_ne_dash hshort
    rw [step_short hended hdash, readShort_settles hshort]
    cases hsettle : settle scan with
    | error halt => rfl
    | ok next => exact readShort_of_cluster hletters (settle_keeps hsettle).1

theorem step_of_plain {argument : String} (hended : scan.ended = false) (h : IsPlain argument)
    (hpending : scan.pending = some (switch, none)) :
    step scan argument = .ok { scan with pending := some (switch, some argument) } := by
  have hread : step scan argument = readPlain scan argument := by
    obtain rfl | hhead := h
    · simp [step, hended]
    · simp only [step, hended, Bool.false_eq_true, if_false]
      split
      · rename_i heq
        exact absurd (congrArg List.head? heq) hhead
      · rename_i heq
        exact absurd (congrArg List.head? heq) hhead
      · rename_i heq
        exact absurd (congrArg List.head? heq) hhead
      · rfl
  rw [hread, readPlain, hpending]

/-- What a long name is followed by: nothing, or an equals sign with a value behind it. -/
theorem behind_name (text : List Char) :
    (text.drop (text.takeWhile (· != '=')).length = [] ∧ text.takeWhile (· != '=') = text) ∨
    ∃ tail, text.drop (text.takeWhile (· != '=')).length = '=' :: tail ∧
      text.takeWhile (· != '=') ++ '=' :: tail = text := by
  induction text with
  | nil => exact .inl ⟨rfl,rfl⟩
  | cons c rest ih =>
    by_cases hc : c = '='
    · subst hc
      exact .inr ⟨rest,rfl,rfl⟩
    · have htake : (c :: rest).takeWhile (· != '=') = c :: rest.takeWhile (· != '=') :=
        List.takeWhile_cons_of_pos (by simpa using hc)
      rw [htake]
      obtain ⟨hdrop,heq⟩ | ⟨tail,hdrop,heq⟩ := ih
      · exact .inl ⟨hdrop,congrArg (c :: ·) heq⟩
      · exact .inr ⟨tail,hdrop,congrArg (c :: ·) heq⟩

theorem exists_opens_of_readLong {text : List Char} (h : readLong scan text = .ok next) :
    ∃ given last, Opens ("--" ++ String.ofList text) given last := by
  simp only [readLong] at h
  split at h
  · cases h
  · rename_i switch hknown
    have hname : String.ofList (text.takeWhile (· != '=')) = switch.long :=
      (Switch.ofLong?_eq_some.mp hknown).symm
    obtain ⟨hdrop,heq⟩ | ⟨tail,hdrop,heq⟩ := behind_name text
    · rw [← heq, hname, ← Switch.form_name]
      cases hvalue : switch.form.valued with
      | false => exact ⟨_,_,.flag hvalue⟩
      | true => exact ⟨_,_,.waits hvalue⟩
    · cases hvalue : switch.form.valued with
      | false =>
        rw [Switch.form_valued] at hvalue
        simp [hdrop, hvalue] at h
      | true =>
        have hargument : "--" ++ String.ofList text =
            switch.form.name ++ "=" ++ String.ofList tail := by
          rw [Switch.form_name, ← heq, ← hname]
          apply String.toList_inj.mp
          simp
        rw [hargument]
        exact ⟨_,_,.assigned hvalue⟩

theorem exists_cluster {letters : List Char} (h : readShort scan letters = .ok next) :
    ∃ given last, Cluster letters given last := by
  induction letters generalizing scan with
  | nil => exact ⟨_,_,.nil⟩
  | cons c rest ih =>
    simp only [readShort] at h
    split at h
    · cases h
    · rename_i switch hknown
      have hshort := Switch.ofShort?_eq_some.mp hknown
      rw [← Switch.form_letter] at hshort
      cases hvalue : switch.form.valued with
      | false =>
        simp only [← Switch.form_valued, hvalue, Bool.not_false, if_true] at h
        obtain ⟨middle,_,hrest⟩ := bind_eq_ok.mp h
        obtain ⟨given,last,hcluster⟩ := ih hrest
        exact ⟨_,_,.flag hshort hvalue hcluster⟩
      | true =>
        by_cases hempty : rest = []
        · subst hempty
          exact ⟨_,_,.waits hshort hvalue⟩
        by_cases hassigned : rest.head? = some '='
        · obtain ⟨tail,rfl⟩ := List.head?_eq_some_iff.mp hassigned
          rw [← String.toList_ofList (l := tail)]
          exact ⟨_,_,.assigned hshort hvalue⟩
        · rw [← String.toList_ofList (l := rest)] at hassigned ⊢
          have hne : String.ofList rest ≠ "" := by simpa using hempty
          exact ⟨_,_,.attached hshort hvalue hne hassigned⟩

theorem step_cases {argument : String} (hended : scan.ended = false)
    (h : step scan argument = .ok next) :
    (argument = "--" ∧ next = { scan with ended := true }) ∨
    (∃ given last, Opens argument given last) ∨
    ∃ switch, IsPlain argument ∧ scan.pending = some (switch, none) ∧
      next = { scan with pending := some (switch, some argument) } := by
  have hargument : String.ofList argument.toList = argument := String.ofList_toList
  simp only [step, hended, Bool.false_eq_true, if_false] at h
  split at h
  · rename_i heq
    rw [heq] at hargument
    exact .inl ⟨hargument.symm,(Except.ok.inj h).symm⟩
  · rename_i text hne heq
    have hlong : "--" ++ String.ofList text = argument := by
      rw [← hargument, heq]
      apply String.toList_inj.mp
      simp
    exact .inr (.inl (hlong ▸ exists_opens_of_readLong h))
  · rename_i c letters hne hnotLong heq
    obtain ⟨given,last,hcluster⟩ := exists_cluster h
    rw [heq] at hargument
    exact .inr (.inl ⟨given,last,hargument ▸ .cluster hcluster⟩)
  · rename_i hne hnotLong hnotShort
    have hplain : IsPlain argument := by
      by_cases hhead : argument.toList.head? = some '-'
      · obtain ⟨rest,hrest⟩ := List.head?_eq_some_iff.mp hhead
        cases rest with
        | nil => exact .inl (by rw [← hargument, hrest])
        | cons c letters => exact absurd hrest (hnotShort c letters)
      · exact .inr hhead
    unfold readPlain at h
    split at h
    · rename_i switch hpending
      exact .inr (.inr ⟨switch,hplain,hpending,(Except.ok.inj h).symm⟩)
    · cases h

end Reading

section Lines
variable {scan : Scan}

theorem opened_eq_ok {given : List (Switch × String)} {last : Option Switch} {next : Scan}
    (h : opened given last scan = .ok next) :
    ∃ taken, takeAll scan given = .ok taken ∧ next = waiting taken last := by
  obtain ⟨taken,htaken,hnext⟩ := bind_eq_ok.mp h
  exact ⟨taken,htaken,(Except.ok.inj hnext).symm⟩

/-- Between two arguments whose switches are all taken no switch waits, and the line goes on. -/
theorem taken_keeps {given : List (Switch × String)} {idle taken : Scan}
    (hsettle : settle scan = .ok idle) (hgiven : takeAll idle given = .ok taken) :
    taken.pending = none ∧ taken.ended = scan.ended := by
  obtain ⟨hidle,hended⟩ := settle_keeps hsettle
  obtain ⟨hpending,hended'⟩ := takeAll_keeps hgiven
  exact ⟨hpending.trans hidle,hended'.trans hended⟩

/-- Reading a line and taking the last switch comes to taking all switches that it spells. -/
theorem run_of_spells {argv : List String} {given : List (Switch × String)} (h : Spells argv given)
    (hended : scan.ended = false) :
    (argv.foldlM step scan >>= settle).map (·.arguments) =
      (settle scan >>= fun next => takeAll next given).map (·.arguments) := by
  induction h generalizing scan with
  | nil =>
    change (settle scan).map (·.arguments) = _
    cases settle scan <;> rfl
  | stop =>
    have hstep : step scan "--" = .ok { scan with ended := true } := by simp [step, hended]
    simp only [List.foldlM_cons, hstep]
    refine (settle_ended true).trans ?_
    cases settle scan <;> rfl
  | next hopens hrest ih =>
    rename_i argument rest given more
    simp only [List.foldlM_cons, step_of_opens hended hopens, takeAll_append]
    cases hsettle : settle scan with
    | error halt => rfl
    | ok idle =>
      cases hgiven : takeAll idle given with
      | error halt => simp [opened, hgiven, bind, Except.bind]
      | ok taken =>
        obtain ⟨hpending,hended'⟩ := taken_keeps hsettle hgiven
        have hrun := ih (hended'.trans hended)
        rw [settle_of_idle hpending] at hrun
        simpa [opened, waiting, hgiven, bind, Except.bind] using hrun
  | value hopens hplain hrest ih =>
    rename_i argument value rest given more switch
    simp only [List.foldlM_cons, step_of_opens hended hopens, takeAll_append]
    cases hsettle : settle scan with
    | error halt => rfl
    | ok idle =>
      cases hgiven : takeAll idle given with
      | error halt => simp [opened, hgiven, bind, Except.bind]
      | ok taken =>
        obtain ⟨hpending,hended'⟩ := taken_keeps hsettle hgiven
        have hready : taken.ended = false := hended'.trans hended
        have hstep : step (waiting taken (some switch)) value =
            .ok { taken with pending := some (switch, some value) } :=
          step_of_plain hready hplain rfl
        have htaken : settle { taken with pending := some (switch, some value) } =
            settleOne taken switch (some value) := by
          change settleOne { taken with pending := none } switch (some value) = _
          rw [← hpending]
        have hnext : ({ taken with pending := some (switch, some value) } : Scan).ended = false :=
          hready
        have hrun := ih hnext
        rw [htaken, ← takeAll_cons] at hrun
        simpa [opened, hgiven, hstep, bind, Except.bind] using hrun

theorem parse_of_spells {argv : List String} {given : List (Switch × String)}
    (h : Spells argv given) : parse argv = (takeAll {} given).map (·.arguments) := by
  have hended : ({} : Scan).ended = false := rfl
  have hrun := run_of_spells h hended
  have hparse : parse argv = (argv.foldlM step {} >>= settle).map (·.arguments) := by
    unfold parse
    cases argv.foldlM step {} with
    | error halt => rfl
    | ok final =>
      change (settle final >>= _) = (settle final).map _
      cases settle final <;> rfl
  exact hparse.trans hrun

theorem Cluster.valued {letters : List Char} {given : List (Switch × String)}
    {last : Option Switch} (h : Cluster letters given last) :
    ∀ switch ∈ last, switch.form.valued = true := by
  induction h with
  | nil => exact nofun
  | flag hshort hflag hrest ih => exact ih
  | attached hshort hvalue hne hplain => exact nofun
  | assigned hshort hvalue => exact nofun
  | waits hshort hvalue =>
    rintro switch ⟨⟩
    exact hvalue

theorem Opens.valued {argument : String} {given : List (Switch × String)} {switch : Switch}
    (h : Opens argument given (some switch)) : switch.form.valued = true := by
  cases h with
  | waits hvalue => exact hvalue
  | cluster hletters => exact hletters.valued switch rfl

theorem ended_of_run {argv : List String} {final : Scan} (hended : scan.ended = true)
    (h : argv.foldlM step scan = .ok final) : argv = [] ∧ final = scan := by
  cases argv with
  | nil => exact ⟨rfl,(Except.ok.inj h).symm⟩
  | cons argument rest =>
    rw [List.foldlM_cons] at h
    obtain ⟨next,hstep,_⟩ := bind_eq_ok.mp h
    simp [step, hended] at hstep

theorem settle_of_awaiting {switch : Switch} {next : Scan}
    (hpending : scan.pending = some (switch, none)) (hvalue : switch.form.valued = true) :
    settle scan ≠ .ok next := by
  rw [Switch.form_valued] at hvalue
  simp [settle, hpending, settleOne_missing hvalue]

theorem spells_of_run {argv : List String} {final last : Scan} (hended : scan.ended = false)
    (hrun : argv.foldlM step scan = .ok final) (hlast : settle final = .ok last) :
    ((∀ switch, scan.pending ≠ some (switch, none)) → ∃ given, Spells argv given) ∧
    ∀ switch, scan.pending = some (switch, none) → switch.form.valued = true →
      ∃ value rest given, argv = value :: rest ∧ IsPlain value ∧ Spells rest given := by
  induction argv generalizing scan with
  | nil =>
    obtain rfl := Except.ok.inj hrun
    refine ⟨fun _ => ⟨[],.nil⟩,fun switch hpending hvalue => ?_⟩
    exact absurd hlast (settle_of_awaiting hpending hvalue)
  | cons argument rest ih =>
    rw [List.foldlM_cons] at hrun
    obtain ⟨next,hstep,hrest⟩ := bind_eq_ok.mp hrun
    obtain ⟨rfl,rfl⟩ | ⟨given,last',hopens⟩ | ⟨switch,hplain,hpending,rfl⟩ :=
      step_cases hended hstep
    · obtain ⟨rfl,rfl⟩ := ended_of_run rfl hrest
      refine ⟨fun _ => ⟨[],.stop⟩,fun switch hpending hvalue => ?_⟩
      exact absurd hlast (settle_of_awaiting hpending hvalue)
    · rw [step_of_opens hended hopens] at hstep
      obtain ⟨idle,hsettle,htake⟩ := bind_eq_ok.mp hstep
      refine ⟨fun _ => ?_,fun switch hpending hvalue =>
        absurd hsettle (settle_of_awaiting hpending hvalue)⟩
      obtain ⟨taken,hgiven,rfl⟩ := opened_eq_ok htake
      obtain ⟨hpending,hended'⟩ := taken_keeps hsettle hgiven
      have hready : taken.ended = false := hended'.trans hended
      cases last' with
      | none =>
        have hnone : ∀ switch, taken.pending ≠ some (switch, none) := by simp [hpending]
        obtain ⟨more,hmore⟩ := (ih hready hrest).1 hnone
        exact ⟨_,.next hopens hmore⟩
      | some switch =>
        have hnext : (waiting taken (some switch)).ended = false := hready
        obtain ⟨value,tail,more,rfl,hplain,hmore⟩ := (ih hnext hrest).2 switch rfl hopens.valued
        exact ⟨_,.value hopens hplain hmore⟩
    · refine ⟨fun hnone => absurd hpending (hnone switch),fun other _ _ => ?_⟩
      have hnext : ({ scan with pending := some (switch, some argument) } : Scan).ended = false :=
        hended
      obtain ⟨more,hmore⟩ := (ih hnext hrest).1 fun other => by simp
      exact ⟨argument,rest,more,rfl,hplain,hmore⟩

/-- A command line that is accepted spells its switches. -/
theorem exists_spells {argv : List String} {arguments : Arguments}
    (h : parse argv = .ok arguments) : ∃ given, Spells argv given := by
  simp only [parse, bind_eq_ok] at h
  obtain ⟨final,hrun,last,hlast,_⟩ := h
  exact (spells_of_run rfl hrun hlast).1 fun switch => nofun

/-- What holds of no switches, and of one more when it is noted, holds of all switches taken. -/
theorem takeAll_induction {motive : List (Switch × String) → Arguments → Prop}
    (hnone : motive [] {})
    (hone : ∀ given arguments switch value next, motive given arguments →
      note arguments switch value = .ok next → motive (given ++ [(switch, value)]) next)
    {given : List (Switch × String)} {last : Scan} (h : takeAll {} given = .ok last) :
    motive given last.arguments := by
  induction given using List.reverseRecOn generalizing last with
  | nil =>
    obtain rfl := Except.ok.inj h
    exact hnone
  | append_singleton given entry ih =>
    obtain ⟨switch,value⟩ := entry
    rw [takeAll_append] at h
    obtain ⟨before,hbefore,hlast⟩ := bind_eq_ok.mp h
    rw [takeAll_cons] at hlast
    obtain ⟨after,hsettled,hnil⟩ := bind_eq_ok.mp hlast
    obtain rfl := Except.ok.inj hnil
    obtain ⟨arguments,hnote,rfl⟩ := settleOne_eq_ok hsettled
    exact hone given before.arguments switch value arguments (ih hbefore) hnote

end Lines

end CommandLine
end RebasingProxy
