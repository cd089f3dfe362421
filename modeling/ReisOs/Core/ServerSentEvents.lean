import Mathlib.Data.List.TakeWhile

/-!
# Server-sent events

How a stream of events is read: lines end at a carriage return, a newline, or both; a line
is a field of the current frame, and a blank line ends the frame.  What comes after the last
blank line is discarded.
-/

namespace ReisOs.Core.ServerSentEvents

/-! ## Lines -/

def endsLine (c : Char) : Bool := c = '\n' || c = '\r'

/-- The lines that have ended, the first one after what is already known of it. -/
def linesFrom (current : List Char) : List Char → List (List Char)
  | [] => []
  | '\r' :: '\n' :: rest => current :: linesFrom [] rest
  | c :: rest =>
    if endsLine c then current :: linesFrom [] rest else linesFrom (current ++ [c]) rest

def lines (text : List Char) : List (List Char) := linesFrom [] text

/-- The text has nothing that ends a line. -/
def Unbroken (text : List Char) : Prop := ∀ c ∈ text, endsLine c = false

instance (text : List Char) : Decidable (Unbroken text) :=
  List.decidableBAll (fun c => endsLine c = false) text

theorem linesFrom_cons {c : Char} (h : endsLine c = false) (current rest : List Char) :
    linesFrom current (c :: rest) = linesFrom (current ++ [c]) rest := by
  rw [linesFrom, h]
  · rfl
  · rintro after rfl
    cases h

theorem linesFrom_line {line : List Char} (h : Unbroken line) (current rest : List Char) :
    linesFrom current (line ++ '\n' :: rest) = (current ++ line) :: linesFrom [] rest := by
  induction line generalizing current with
  | nil =>
    rw [List.nil_append, List.append_nil, linesFrom]
    · rfl
    · rintro after ⟨⟩
  | cons c line ih =>
    have hline : Unbroken line := fun d hd => h d (List.mem_cons_of_mem c hd)
    rw [List.cons_append, linesFrom_cons (h c List.mem_cons_self), ih hline,
      List.append_assoc, List.singleton_append]

theorem unbroken_linesFrom (text : List Char) {current : List Char} (h : Unbroken current) :
    ∀ line ∈ linesFrom current text, Unbroken line := by
  have hnil : Unbroken [] := fun c hc => absurd hc List.not_mem_nil
  fun_induction linesFrom current text with
  | case1 current =>
    intro line hline
    cases hline
  | case2 current rest ih =>
    rw [List.forall_mem_cons]
    exact ⟨h, ih hnil⟩
  | case3 current c rest hnext hends ih =>
    rw [List.forall_mem_cons]
    exact ⟨h, ih hnil⟩
  | case4 current c rest hnext hends ih =>
    apply ih
    intro d hd
    cases List.mem_append.mp hd with
    | inl hcurrent => exact h d hcurrent
    | inr hlast =>
      rw [List.mem_singleton] at hlast
      rw [hlast]
      exact Bool.not_eq_true _ ▸ hends

/-! ## Fields and frames -/

/-- What is known of the frame that is being read; the id outlives the frame. -/
structure Buffers where
  event : List Char
  data : List Char
  lastEventId : List Char
  deriving DecidableEq, Repr

structure Frame where
  event : List Char
  data : List Char
  lastEventId : List Char
  deriving DecidableEq, Repr

/-- What comes after the colon of a line, less one space. -/
def fieldValue : List Char → List Char
  | _ :: ' ' :: value => value
  | _ :: value => value
  | [] => []

/-- A line that is not blank; one that begins with a colon has no name, and like a field of
any other name it is ignored. -/
def Buffers.process (buffers : Buffers) (line : List Char) : Buffers :=
  let name := line.takeWhile (· ≠ ':')
  let value := fieldValue (line.dropWhile (· ≠ ':'))
  if name = ['e', 'v', 'e', 'n', 't'] then { buffers with event := value }
  else if name = ['d', 'a', 't', 'a'] then { buffers with data := buffers.data ++ value ++ ['\n'] }
  else if name = ['i', 'd'] ∧ '\x00' ∉ value then { buffers with lastEventId := value }
  else buffers

/-- The frame at a blank line; there is none without data. -/
def Buffers.dispatch (buffers : Buffers) : Option Frame :=
  if buffers.data = [] then none
  else some
    { event :=
        if buffers.event = [] then ['m', 'e', 's', 's', 'a', 'g', 'e'] else buffers.event
      data := buffers.data.dropLast
      lastEventId := buffers.lastEventId }

/-- The buffers for the next frame. -/
def Buffers.reset (buffers : Buffers) : Buffers := ⟨[], [], buffers.lastEventId⟩

def framesOf : Buffers → List (List Char) → List Frame
  | _, [] => []
  | buffers, [] :: rest => buffers.dispatch.toList ++ framesOf buffers.reset rest
  | buffers, (c :: line) :: rest => framesOf (buffers.process (c :: line)) rest

/-- The frames of a whole stream. -/
def parse (text : List Char) : List Frame := framesOf ⟨[], [], []⟩ (lines text)

/-! ## What a frame holds -/

theorem unbroken_fieldValue {line : List Char} (h : Unbroken line) :
    Unbroken (fieldValue (line.dropWhile (· ≠ ':'))) := by
  have hdrop : Unbroken (line.dropWhile (· ≠ ':')) := fun c hc =>
    h c ((List.dropWhile_sublist _).subset hc)
  unfold fieldValue
  split
  · next heq =>
      rw [heq] at hdrop
      exact fun c hc => hdrop c (List.mem_cons_of_mem _ (List.mem_cons_of_mem _ hc))
  · next heq =>
      rw [heq] at hdrop
      exact fun c hc => hdrop c (List.mem_cons_of_mem _ hc)
  · exact fun c hc => absurd hc List.not_mem_nil

variable {buffers : Buffers}

theorem unbroken_process (h : Unbroken buffers.event) {line : List Char}
    (hline : Unbroken line) : Unbroken (buffers.process line).event := by
  unfold Buffers.process
  simp only
  split_ifs
  · exact unbroken_fieldValue hline
  · exact h
  · exact h
  · exact h

/-- No name of an event has an end of a line in it. -/
theorem unbroken_framesOf {texts : List (List Char)} (htexts : ∀ line ∈ texts, Unbroken line) (h : Unbroken buffers.event) :
    ∀ frame ∈ framesOf buffers texts, Unbroken frame.event := by
  induction texts generalizing buffers with
  | nil =>
    intro frame hframe
    cases hframe
  | cons line rest ih =>
    rw [List.forall_mem_cons] at htexts
    cases line with
    | nil =>
      intro frame hframe
      rw [framesOf, List.mem_append] at hframe
      cases hframe with
      | inl hdispatch =>
        rw [Option.mem_toList, Buffers.dispatch] at hdispatch
        split_ifs at hdispatch with hdata hevent
        · have hmessage : Unbroken ['m', 'e', 's', 's', 'a', 'g', 'e'] := by decide
          cases hdispatch
          exact hmessage
        · cases hdispatch
          exact h
      | inr hrest =>
        have hreset : Unbroken buffers.reset.event := fun c hc =>
          absurd hc List.not_mem_nil
        exact ih htexts.2 hreset frame hrest
    | cons c line =>
      rw [framesOf]
      exact ih htexts.2 (unbroken_process h htexts.1)

theorem unbroken_parse (text : List Char) : ∀ frame ∈ parse text, Unbroken frame.event :=
  unbroken_framesOf (unbroken_linesFrom text fun _ hc => absurd hc List.not_mem_nil)
    fun _ hc => absurd hc List.not_mem_nil

/-! ## Frames that are written -/

/-- The line of a field. -/
def fieldLine (name value : List Char) : List Char := name ++ ':' :: ' ' :: value

theorem process_fieldLine (buffers : Buffers) {name : List Char} (hname : ':' ∉ name)
    (value : List Char) :
    buffers.process (fieldLine name value) =
      if name = ['e', 'v', 'e', 'n', 't'] then { buffers with event := value }
      else if name = ['d', 'a', 't', 'a'] then
        { buffers with data := buffers.data ++ value ++ ['\n'] }
      else if name = ['i', 'd'] ∧ '\x00' ∉ value then { buffers with lastEventId := value }
      else buffers := by
  have hne : ∀ c ∈ name, decide (c ≠ ':') = true := by
    intro c hc
    apply decide_eq_true
    rintro rfl
    exact hname hc
  have htake : (fieldLine name value).takeWhile (· ≠ ':') = name := by
    rw [fieldLine, List.takeWhile_append_of_pos hne, List.takeWhile_cons_of_neg (by decide),
      List.append_nil]
  have hdrop : (fieldLine name value).dropWhile (· ≠ ':') = ':' :: ' ' :: value := by
    rw [fieldLine, List.dropWhile_append_of_pos hne, List.dropWhile_cons_of_neg (by decide)]
  rw [Buffers.process, htake, hdrop]
  rfl

/-- The text of a frame with the given fields. -/
def frameText (fields : List (List Char × List Char)) : List Char :=
  fields.flatMap (fun field => fieldLine field.1 field.2 ++ ['\n']) ++ ['\n']

theorem lines_frameText {fields : List (List Char × List Char)}
    (h : ∀ field ∈ fields, Unbroken (fieldLine field.1 field.2)) (rest : List Char) :
    lines (frameText fields ++ rest) =
      fields.map (fun field => fieldLine field.1 field.2) ++ [] :: lines rest := by
  induction fields with
  | nil =>
    have hnil : Unbroken [] := fun _ hc => absurd hc List.not_mem_nil
    exact linesFrom_line hnil [] rest
  | cons field fields ih =>
    rw [List.forall_mem_cons] at h
    have htext : frameText (field :: fields) ++ rest =
        fieldLine field.1 field.2 ++ '\n' :: (frameText fields ++ rest) := by
      simp only [frameText, List.flatMap_cons, List.append_assoc, List.cons_append,
        List.nil_append]
    rw [htext, lines, linesFrom_line h.1, List.nil_append]
    exact congrArg (_ :: ·) (ih h.2)

/-- The buffers after a field. -/
def Buffers.field (buffers : Buffers) (field : List Char × List Char) : Buffers :=
  buffers.process (fieldLine field.1 field.2)

theorem framesOf_fields (fields : List (List Char × List Char)) (buffers : Buffers)
    (rest : List (List Char)) :
    framesOf buffers (fields.map (fun field => fieldLine field.1 field.2) ++ [] :: rest) =
      (fields.foldl Buffers.field buffers).dispatch.toList ++
        framesOf (fields.foldl Buffers.field buffers).reset rest := by
  induction fields generalizing buffers with
  | nil => rfl
  | cons field fields ih =>
    obtain ⟨c, line, hline⟩ := List.exists_cons_of_ne_nil
      (show fieldLine field.1 field.2 ≠ [] by simp [fieldLine])
    rw [List.map_cons, List.cons_append, hline, framesOf, ← hline, List.foldl_cons]
    exact ih (buffers.field field)

theorem framesOf_frameText {fields : List (List Char × List Char)}
    (h : ∀ field ∈ fields, Unbroken (fieldLine field.1 field.2))
    {event data lastEventId : List Char}
    (hfields : fields.foldl Buffers.field buffers = ⟨event, data ++ ['\n'], lastEventId⟩)
    (hevent : event ≠ []) (rest : List Char) :
    framesOf buffers (lines (frameText fields ++ rest)) =
      ⟨event, data, lastEventId⟩ :: framesOf ⟨[], [], lastEventId⟩ (lines rest) := by
  have hdata : data ++ ['\n'] ≠ [] := List.append_ne_nil_of_right_ne_nil _ (List.cons_ne_nil _ _)
  rw [lines_frameText h, framesOf_fields, hfields, Buffers.dispatch, if_neg hdata, if_neg hevent,
    List.dropLast_concat]
  rfl

end ReisOs.Core.ServerSentEvents
