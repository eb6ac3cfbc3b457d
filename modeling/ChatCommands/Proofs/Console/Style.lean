/-
# What is visible of painted text

A style code is opened by an escape character and closed by the next letter `m`. A text that
closes the codes it opens does not swallow what comes after it: the visible characters of texts
put together are their visible characters put together. Paint is made of such codes, so it takes
nothing away from a text without codes and adds nothing to it.

Main statement: `stripStyles_replyText`.
-/

import ChatCommands.Console.Style
import Mathlib.Data.List.Forall2

namespace ChatCommands.Console

variable {cs rest : List Char} {c : Char}

/-! ## Closed codes -/

/-- A text closes the style codes it opens: after every escape character there is a letter
`m`. -/
def ClosesStyles (cs : List Char) : Prop :=
  ∀ before after, cs = before ++ escape :: after → 'm' ∈ after

theorem closesStyles_nil : ClosesStyles [] := by
  intro before after same
  exact absurd same.symm (List.append_ne_nil_of_right_ne_nil before (List.cons_ne_nil _ _))

theorem closesStyles_cons_iff :
    ClosesStyles (c :: cs) ↔ (c = escape → 'm' ∈ cs) ∧ ClosesStyles cs := by
  constructor
  · intro closes
    refine ⟨fun opens => closes [] cs (by rw [opens]; rfl), fun before after same => ?_⟩
    exact closes (c :: before) after (congrArg (List.cons c) same)
  · rintro ⟨first, closes⟩ before after same
    rcases List.cons_eq_append_iff.mp same with ⟨-, opening⟩ | ⟨before, -, inRest⟩
    · cases opening
      exact first rfl
    · exact closes before after inRest

instance decidableClosesStyles : (cs : List Char) → Decidable (ClosesStyles cs)
  | [] => isTrue closesStyles_nil
  | _ :: cs =>
    have := decidableClosesStyles cs
    decidable_of_iff _ closesStyles_cons_iff.symm

theorem closesStyles_of_not_mem (plain : escape ∉ cs) : ClosesStyles cs := by
  rintro before after rfl
  exact absurd (List.mem_append_right before List.mem_cons_self) plain

theorem ClosesStyles.append (first : ClosesStyles cs) (second : ClosesStyles rest) :
    ClosesStyles (cs ++ rest) := by
  intro before after same
  rcases List.append_eq_append_iff.mp same with ⟨more, -, inRest⟩ | ⟨more, split, inFront⟩
  · exact second more after inRest
  · rcases List.cons_eq_append_iff.mp inFront with ⟨-, opening⟩ | ⟨more, rfl, rfl⟩
    · exact second [] after opening
    · exact List.mem_append_left rest (first before more split)

/-- The text may begin inside a code that it closes. -/
theorem visibleFrom_append (closes : ClosesStyles cs) {inCode : Bool}
    (closing : inCode = true → 'm' ∈ cs) (rest : List Char) :
    visibleFrom inCode (cs ++ rest) = visibleFrom inCode cs ++ visibleFrom false rest := by
  induction cs generalizing inCode with
  | nil =>
      cases inCode with
      | false => rfl
      | true => exact absurd (closing rfl) List.not_mem_nil
  | cons c cs ih =>
      obtain ⟨opened, later⟩ := closesStyles_cons_iff.mp closes
      rw [List.cons_append, visibleFrom, visibleFrom]
      cases inCode with
      | true =>
          rw [if_pos rfl, if_pos rfl]
          refine ih later fun stillOpen => ?_
          rcases List.mem_cons.mp (closing rfl) with same | inRest
          · rw [← same] at stillOpen
            cases stillOpen
          · exact inRest
      | false =>
          rw [if_neg Bool.false_ne_true, if_neg Bool.false_ne_true]
          by_cases opens : c = escape
          · rw [if_pos opens, if_pos opens]
            exact ih later fun _ => opened opens
          · rw [if_neg opens, if_neg opens, List.cons_append,
              ih later fun same => absurd same Bool.false_ne_true]

theorem visible_append (closes : ClosesStyles cs) (rest : List Char) :
    visible (cs ++ rest) = visible cs ++ visible rest :=
  visibleFrom_append closes (fun same => absurd same Bool.false_ne_true) rest

/-! ## Texts that show other texts -/

/-- A text with closed style codes shows the text that remains without them. -/
structure Shows (styled text : String) : Prop where
  closes : ClosesStyles styled.toList
  stripped : stripStyles styled = text

theorem shows_self {text : String} (plain : escape ∉ text.toList) : Shows text text where
  closes := closesStyles_of_not_mem plain
  stripped := by rw [stripStyles, visible_of_not_mem plain, String.ofList_toList]

theorem Shows.append {styled text styled' text' : String} (first : Shows styled text)
    (second : Shows styled' text') : Shows (styled ++ styled') (text ++ text') where
  closes := by
    rw [String.toList_append]
    exact first.closes.append second.closes
  stripped := by
    rw [← first.stripped, ← second.stripped, stripStyles, String.toList_append,
      visible_append first.closes, String.ofList_append]
    rfl

theorem shows_code (style : Style) : Shows style.code "" := by
  cases style <;> exact ⟨by decide, by decide⟩

theorem shows_codes (styles : List Style) : Shows (String.join (styles.map Style.code)) "" := by
  induction styles with
  | nil => exact shows_self (by decide)
  | cons style styles ih =>
      rw [List.map_cons, String.join_cons]
      exact (shows_code style).append ih

/-- Painted text shows the text without paint. -/
theorem shows_paint (styles : List Style) {text : String} (plain : escape ∉ text.toList) :
    Shows (paint true styles text) (paint false styles text) := by
  have painted := ((shows_codes styles).append (shows_self plain)).append (shows_code .reset)
  rwa [String.empty_append, String.append_empty] at painted

theorem shows_intercalate {separator : String} (plain : escape ∉ separator.toList)
    {styled texts : List String} (shown : List.Forall₂ Shows styled texts) :
    Shows (separator.intercalate styled) (separator.intercalate texts) := by
  induction shown with
  | nil =>
      rw [String.intercalate_nil]
      exact shows_self (by decide)
  | cons first others ih =>
      cases others with
      | nil =>
          rw [String.intercalate_singleton, String.intercalate_singleton]
          exact first
      | cons =>
          rw [String.intercalate_cons_cons, String.intercalate_cons_cons]
          exact (first.append (shows_self plain)).append ih

/-! ## Replies -/

/-- The texts a reply is made of. -/
def fields : Reply → List String
  | .text content => [content]
  | .error reply =>
    [reply.title, reply.description, reply.details] ++
      (reply.suggestion?.toList ++ reply.traceback?.toList)

/-- The painted lines of a reply to an error show the plain ones. -/
theorem forall₂_shows_errorLines {reply : ErrorReply}
    (plain : ∀ field ∈ fields (.error reply), escape ∉ field.toList) :
    List.Forall₂ Shows (errorLines true reply) (errorLines false reply) := by
  simp only [fields, List.forall_mem_append, List.forall_mem_cons] at plain
  obtain ⟨⟨title, description, details, -⟩, suggestion, traceback⟩ := plain
  have label : Shows (paint true [.dim] "Details:" ++ " ") (paint false [.dim] "Details:" ++ " ") :=
    (shows_paint _ (by decide)).append (shows_self (by decide))
  rw [errorLines, errorLines]
  refine List.rel_append (List.rel_append ?_ ?_) ?_
  · exact .cons (shows_paint _ title) <| .cons (shows_self description) <|
      .cons (label.append (shows_self details)) .nil
  · cases hint : reply.suggestion? with
    | none => exact .nil
    | some text => exact .cons (shows_paint _ (suggestion text (by simp [hint]))) .nil
  · cases causes : reply.traceback? with
    | none => exact .nil
    | some text =>
        exact .cons (shows_paint _ (by decide)) <|
          .cons (shows_self (traceback text (by simp [causes]))) .nil

/-- A reply in colour, without its style codes, is the reply without colour. -/
theorem stripStyles_replyText (reply : Reply)
    (plain : ∀ field ∈ fields reply, escape ∉ field.toList) :
    stripStyles (replyText true reply) = replyText false reply := by
  cases reply with
  | text content => exact (shows_self (plain content List.mem_cons_self)).stripped
  | error reply =>
      have newline : escape ∉ "\n".toList := by decide
      exact (shows_intercalate newline (forall₂_shows_errorLines plain)).stripped

/-- The letter that closes a style code occurs in every line. -/
theorem stripStyles_replyText_memory :
    let reply : Reply := .error
      { title := "memory"
        description := "m[31m"
        details := "mm"
        suggestion? := some "Did you mean /mime?"
        traceback? := some "0: \tmain\n1: mmap" }
    (∀ field ∈ fields reply, escape ∉ field.toList) ∧
      replyText true reply ≠ replyText false reply ∧
      stripStyles (replyText true reply) = String.intercalate "\n"
        ["memory", "m[31m", "Details: mm", "Did you mean /mime?", "Traceback:",
          "0: \tmain\n1: mmap"] := by
  intro reply
  have plain : ∀ field ∈ fields reply, escape ∉ field.toList := by decide
  exact ⟨plain, by decide, (stripStyles_replyText reply plain).trans (by decide)⟩

end ChatCommands.Console
