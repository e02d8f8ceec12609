import SerenRouter.Sse

/-! The framing of events: the first separator of a buffer stays the first one when input
arrives, and an event whose text has no line ending is read back as it was written. -/
namespace SerenRouter
open Kernel Kernel.Json Kernel.Framing

theorem findSubslice_cons (byte : UInt8) (haystack needle : List UInt8) :
    findSubslice (byte :: haystack) needle =
      if needle <+: byte :: haystack then some 0 else (findSubslice haystack needle).map (· + 1) := by
  simp [findSubslice]

theorem findSubslice_bounded (haystack needle : List UInt8) (position : Nat)
    (found : findSubslice haystack needle = some position) : position + needle.length ≤ haystack.length := by
  induction haystack generalizing position with
  | nil => cases found
  | cons byte haystack ih =>
    rw [findSubslice_cons] at found
    split at found
    · rename_i here
      cases found
      simpa using here.length_le
    · obtain ⟨earlier,later,rfl⟩ := Option.map_eq_some_iff.mp found
      have := ih earlier later
      simp
      omega

theorem findSubslice_append (haystack more needle : List UInt8) (position : Nat)
    (found : findSubslice haystack needle = some position) :
    findSubslice (haystack ++ more) needle = some position := by
  induction haystack generalizing position with
  | nil => cases found
  | cons byte haystack ih =>
    rw [List.cons_append,findSubslice_cons]
    rw [findSubslice_cons] at found
    by_cases here : needle <+: byte :: haystack
    · rw [if_pos here] at found
      rw [if_pos (by simpa using here.trans (List.prefix_append _ more))]
      exact found
    · rw [if_neg here] at found
      obtain ⟨earlier,later,rfl⟩ := Option.map_eq_some_iff.mp found
      have bound := findSubslice_bounded haystack needle earlier later
      rw [if_neg,ih earlier later]
      · rfl
      · intro longer
        apply here
        have fits : needle.length ≤ (byte :: haystack).length := by simp; omega
        exact List.prefix_of_prefix_length_le longer (List.prefix_append (byte :: haystack) more) fits

/-- An occurrence that new input completes ends in that input. -/
theorem findSubslice_new (haystack more needle : List UInt8) (position : Nat) (nonempty : 0 < needle.length)
    (absent : findSubslice haystack needle = none)
    (found : findSubslice (haystack ++ more) needle = some position) :
    haystack.length < position + needle.length := by
  induction haystack generalizing position with
  | nil => simp; omega
  | cons byte haystack ih =>
    rw [findSubslice_cons] at absent
    rw [List.cons_append,findSubslice_cons] at found
    split at absent
    · cases absent
    rename_i here
    rw [Option.map_eq_none_iff] at absent
    split at found
    · rename_i longer
      cases found
      by_contra short
      have fits : needle.length ≤ (byte :: haystack).length := by omega
      exact here (List.prefix_of_prefix_length_le longer (List.prefix_append (byte :: haystack) more) fits)
    · obtain ⟨earlier,later,rfl⟩ := Option.map_eq_some_iff.mp found
      have := ih earlier absent later
      simp
      omega

/-- What is cut behind an occurrence ends with the needle. -/
theorem findSubslice_suffix (haystack needle : List UInt8) (position : Nat)
    (found : findSubslice haystack needle = some position) :
    needle <:+ haystack.take (position + needle.length) := by
  induction haystack generalizing position with
  | nil => cases found
  | cons byte haystack ih =>
    rw [findSubslice_cons] at found
    split at found
    · rename_i here
      cases found
      rw [Nat.zero_add,← List.prefix_iff_eq_take.mp here]
    · obtain ⟨earlier,later,rfl⟩ := Option.map_eq_some_iff.mp found
      rw [Nat.add_right_comm,List.take_succ_cons]
      exact (ih earlier later).trans (List.suffix_cons byte _)

/-- What is cut behind the first occurrence still has it there. -/
theorem findSubslice_take (haystack needle : List UInt8) (position : Nat) (nonempty : needle ≠ [])
    (found : findSubslice haystack needle = some position) :
    findSubslice (haystack.take (position + needle.length)) needle = some position := by
  induction haystack generalizing position with
  | nil => cases found
  | cons byte haystack ih =>
    rw [findSubslice_cons] at found
    split at found
    · rename_i here
      cases found
      rw [Nat.zero_add,← List.prefix_iff_eq_take.mp here]
      obtain ⟨first,rest,rfl⟩ := List.exists_cons_of_ne_nil nonempty
      rw [findSubslice_cons,if_pos List.prefix_rfl]
    · rename_i notHere
      obtain ⟨earlier,later,rfl⟩ := Option.map_eq_some_iff.mp found
      rw [Nat.add_right_comm,List.take_succ_cons,findSubslice_cons,ih earlier later,if_neg]
      · rfl
      · intro shorter
        exact notHere (shorter.trans ((List.prefix_cons_inj byte).mpr (List.take_prefix _ haystack)))

/-- Bytes that do not contain the needle's first byte are skipped. -/
theorem findSubslice_skip (body rest needle : List UInt8) (first : UInt8) (clean : first ∉ body) :
    findSubslice (body ++ rest) (first :: needle) =
      (findSubslice rest (first :: needle)).map (· + body.length) := by
  induction body with
  | nil => simp
  | cons byte body ih =>
    obtain ⟨different,clean⟩ := not_or.mp (mt List.mem_cons.mpr clean)
    rw [List.cons_append,findSubslice_cons,if_neg (fun here => different (List.cons_prefix_cons.mp here).1),
      ih clean,Option.map_map]
    congr 1

/-- The end of an event is the end of the earlier one of the two separators. -/
theorem nextEventEnd_cases (bytes : List UInt8) (length : Nat) (found : nextEventEnd bytes = some length) :
    (∃ position, findSubslice bytes lfSeparator = some position ∧ length = position + 2 ∧
      ∀ other, findSubslice bytes crlfSeparator = some other → length ≤ other + 4) ∨
    (∃ position, findSubslice bytes crlfSeparator = some position ∧ length = position + 4 ∧
      ∀ other, findSubslice bytes lfSeparator = some other → length ≤ other + 2) := by
  unfold nextEventEnd at found
  cases lf : findSubslice bytes lfSeparator with
  | none =>
    cases crlf : findSubslice bytes crlfSeparator with
    | none => simp [lf,crlf] at found
    | some position =>
      simp only [lf,crlf,Option.map_none,Option.map_some,Option.some.injEq] at found
      exact .inr ⟨position,rfl,found.symm,by simp⟩
  | some first =>
    cases crlf : findSubslice bytes crlfSeparator with
    | none =>
      simp only [lf,crlf,Option.map_none,Option.map_some,Option.some.injEq] at found
      exact .inl ⟨first,rfl,found.symm,by simp⟩
    | some second =>
      simp only [lf,crlf,Option.map_some,Option.some.injEq] at found
      rcases Nat.le_total (first + 2) (second + 4) with early | late
      · exact .inl ⟨first,rfl,by omega,by simp; omega⟩
      · exact .inr ⟨second,rfl,by omega,by simp; omega⟩

theorem nextEventEnd_lf (bytes : List UInt8) (position : Nat)
    (found : findSubslice bytes lfSeparator = some position)
    (first : ∀ other, findSubslice bytes crlfSeparator = some other → position + 2 ≤ other + 4) :
    nextEventEnd bytes = some (position + 2) := by
  unfold nextEventEnd
  cases crlf : findSubslice bytes crlfSeparator with
  | none => simp [found]
  | some other => simp [found,first other crlf]

theorem nextEventEnd_crlf (bytes : List UInt8) (position : Nat)
    (found : findSubslice bytes crlfSeparator = some position)
    (first : ∀ other, findSubslice bytes lfSeparator = some other → position + 4 ≤ other + 2) :
    nextEventEnd bytes = some (position + 4) := by
  unfold nextEventEnd
  cases lf : findSubslice bytes lfSeparator with
  | none => simp [found]
  | some other => simp [found,first other lf]

/-- An event that is cut off a buffer is one whole event. -/
theorem nextEventEnd_take (bytes : List UInt8) (length : Nat) (found : nextEventEnd bytes = some length) :
    nextEventEnd (bytes.take length) = some length := by
  have whole (needle : List UInt8) (other : Nat) (present : findSubslice (bytes.take length) needle = some other) :
      findSubslice bytes needle = some other := by
    have grown := findSubslice_append (bytes.take length) (bytes.drop length) needle other present
    rwa [List.take_append_drop] at grown
  rcases nextEventEnd_cases bytes length found with ⟨position,present,rfl,first⟩ | ⟨position,present,rfl,first⟩
  · exact nextEventEnd_lf _ position (findSubslice_take bytes lfSeparator position (by decide) present)
      (fun other inside => first other (whole _ other inside))
  · exact nextEventEnd_crlf _ position (findSubslice_take bytes crlfSeparator position (by decide) present)
      (fun other inside => first other (whole _ other inside))

theorem nextEventEnd_stable : Stable nextEventEnd where
  bounded bytes length found := by
    rcases nextEventEnd_cases bytes length found with ⟨position,present,rfl,_⟩ | ⟨position,present,rfl,_⟩
    · exact ⟨by omega,findSubslice_bounded bytes lfSeparator position present⟩
    · exact ⟨by omega,findSubslice_bounded bytes crlfSeparator position present⟩
  grows bytes more length found := by
    -- A separator that only the new input completes ends behind the old input.
    have later (needle : List UInt8) (nonempty : 0 < needle.length) (inside : length ≤ bytes.length)
        (first : ∀ other, findSubslice bytes needle = some other → length ≤ other + needle.length)
        (other : Nat) (present : findSubslice (bytes ++ more) needle = some other) :
        length ≤ other + needle.length := by
      cases old : findSubslice bytes needle with
      | none => have := findSubslice_new bytes more needle other nonempty old present; omega
      | some earlier =>
        rw [findSubslice_append bytes more needle earlier old] at present
        cases present
        exact first _ old
    rcases nextEventEnd_cases bytes length found with ⟨position,present,rfl,first⟩ | ⟨position,present,rfl,first⟩
    · have inside := findSubslice_bounded bytes lfSeparator position present
      exact nextEventEnd_lf _ position (findSubslice_append bytes more _ position present)
        (later crlfSeparator (by decide) inside first)
    · have inside := findSubslice_bounded bytes crlfSeparator position present
      exact nextEventEnd_crlf _ position (findSubslice_append bytes more _ position present)
        (later lfSeparator (by decide) inside first)

/-- An event ends with one of the separators. -/
def Terminated (event : List UInt8) : Prop :=
  lfSeparator <:+ event ∨ crlfSeparator <:+ event

theorem events_terminated (bytes : List UInt8) : ∀ event ∈ (frames nextEventEnd bytes).1, Terminated event := by
  refine frames_all nextEventEnd nextEventEnd_stable Terminated (fun buffer length found => ?_) bytes
  rcases nextEventEnd_cases buffer length found with ⟨position,present,rfl,_⟩ | ⟨position,present,rfl,_⟩
  · exact .inl (findSubslice_suffix buffer lfSeparator position present)
  · exact .inr (findSubslice_suffix buffer crlfSeparator position present)

theorem events_whole (bytes : List UInt8) :
    ∀ event ∈ (frames nextEventEnd bytes).1, nextEventEnd event = some event.length := by
  refine frames_all nextEventEnd nextEventEnd_stable (fun event => nextEventEnd event = some event.length)
    (fun buffer length found => ?_) bytes
  rw [List.length_take_of_le (nextEventEnd_stable.bounded buffer length found).2]
  exact nextEventEnd_take buffer length found

/-- A text without line endings. -/
def SingleLine (text : List UInt8) : Prop := 10 ∉ text ∧ 13 ∉ text

theorem nextEventEnd_skip (text rest : List UInt8) (single : SingleLine text) :
    nextEventEnd (text ++ rest) = (nextEventEnd rest).map (· + text.length) := by
  unfold nextEventEnd lfSeparator crlfSeparator
  rw [findSubslice_skip text rest _ _ single.1,findSubslice_skip text rest _ _ single.2]
  cases findSubslice rest [10,10] with
  | none => cases findSubslice rest [13,10,13,10] <;> simp; omega
  | some lf =>
    cases findSubslice rest [13,10,13,10] with
    | none => simp; omega
    | some crlf => simp; omega

def IsSeparator (bytes : List UInt8) : Prop := bytes = lfSeparator ∨ bytes = crlfSeparator

def IsDataPrefix (bytes : List UInt8) : Prop := bytes = utf8 "data:" ∨ bytes = utf8 "data: "

theorem nextEventEnd_event (text separator : List UInt8) (single : SingleLine text)
    (ends : IsSeparator separator) :
    nextEventEnd (text ++ separator) = some (text ++ separator).length := by
  rw [nextEventEnd_skip text separator single,List.length_append,Nat.add_comm text.length]
  rcases ends with rfl | rfl <;> rfl

theorem splitSeparator_terminated (event : List UInt8) (terminated : Terminated event) :
    ∃ body separator, splitSeparator event = (body,separator) ∧ IsSeparator separator ∧
      event = body ++ separator := by
  unfold splitSeparator
  by_cases crlf : crlfSeparator <:+ event
  · obtain ⟨body,rfl⟩ := crlf
    exact ⟨body,crlfSeparator,by simp [crlfSeparator],.inr rfl,rfl⟩
  · obtain ⟨body,rfl⟩ := terminated.resolve_right crlf
    refine ⟨body,lfSeparator,?_,.inl rfl,rfl⟩
    rw [if_neg (by simpa using crlf)]
    simp [lfSeparator]

theorem splitSeparator_append (text separator : List UInt8) (ends : IsSeparator separator) :
    splitSeparator (text ++ separator) = (text,separator) := by
  unfold splitSeparator
  rcases ends with rfl | rfl
  · have plain : ¬ crlfSeparator <:+ text ++ lfSeparator := by
      rintro ⟨body,equal⟩
      have split : (body ++ [13,10]) ++ [13,10] = text ++ lfSeparator := by
        simpa [crlfSeparator] using equal
      exact absurd (List.append_inj' split rfl).2 (by decide)
    rw [if_neg (by simpa using plain)]
    simp [lfSeparator]
  · simp [crlfSeparator]

theorem singleDataLine_success (body dataPrefix data : List UInt8)
    (read : singleDataLine body = some (dataPrefix,data)) :
    SingleLine body ∧ IsDataPrefix dataPrefix ∧ body = dataPrefix ++ data := by
  unfold singleDataLine at read
  split at read
  · cases read
  rename_i single
  obtain ⟨rest,dropped,split⟩ := Option.map_eq_some_iff.mp read
  rw [dropPrefix_success] at dropped
  subst dropped
  refine ⟨not_or.mp single,?_⟩
  cases blank : rest.dropPrefix? (utf8 " ") with
  | none =>
    simp [blank] at split
    obtain ⟨rfl,rfl⟩ := split
    exact ⟨.inl rfl,rfl⟩
  | some kept =>
    rw [dropPrefix_success] at blank
    subst blank
    have whole : (utf8 " " ++ kept).dropPrefix? (utf8 " ") = some kept := (dropPrefix_success _ _ _).mpr rfl
    rw [whole,Option.getD_some,← List.append_assoc,List.splitAt_eq] at split
    have length : (utf8 "data:" ++ utf8 " " ++ kept).length - kept.length = (utf8 "data:" ++ utf8 " ").length := by
      simp
      omega
    rw [length,List.take_left,List.drop_left] at split
    cases split
    exact ⟨.inr rfl,by simp⟩

theorem singleDataLine_prefixed (dataPrefix data : List UInt8) (known : IsDataPrefix dataPrefix)
    (single : SingleLine data) (noBlank : data.head? ≠ some 32) :
    singleDataLine (dataPrefix ++ data) = some (dataPrefix,data) := by
  have clean : ¬ (10 ∈ dataPrefix ++ data ∨ 13 ∈ dataPrefix ++ data) := by
    rcases known with rfl | rfl
    · simp [single.1,single.2,show utf8 "data:" = [100,97,116,97,58] from rfl]
    · simp [single.1,single.2,show utf8 "data: " = [100,97,116,97,58,32] from rfl]
  rw [singleDataLine,if_neg clean]
  rcases known with rfl | rfl
  · have dropped : (utf8 "data:" ++ data).dropPrefix? (utf8 "data:") = some data :=
      (dropPrefix_success _ _ _).mpr rfl
    have blank : data.dropPrefix? (utf8 " ") = none := by
      rw [dropPrefix_none]
      rintro rest rfl
      exact noBlank rfl
    simp [dropped,blank]
  · have dropped : (utf8 "data: " ++ data).dropPrefix? (utf8 "data:") = some (utf8 " " ++ data) :=
      (dropPrefix_success _ _ _).mpr rfl
    have blank : (utf8 " " ++ data).dropPrefix? (utf8 " ") = some data := (dropPrefix_success _ _ _).mpr rfl
    simp [dropped,blank]

end SerenRouter
