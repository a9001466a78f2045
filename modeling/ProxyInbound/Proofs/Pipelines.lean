import ProxyInbound.CommandLine
import ProxyInbound.Proofs.Form.Fields
import ProxyInbound.Proofs.Form.Plain

/-!
# Pipelines of commands

Parsing an input and serializing what was printed comes to the same as normalizing the input: the
form that is printed between the two commands is read back as it was, field by field and character
by character, in either layout. The two ways fail on the same inputs and report the same failure.
-/

namespace ProxyInbound.CommandLine

open Json.Printer

/-! ## What a command leaves behind -/

/-- The failure of a command whose input cannot be read. -/
def Invocation.unread (i : Invocation) : Failure :=
  if i.input = "-" then .noStandardInput else .noFile i.input

section Invocations

variable {i : Invocation} (hreads : i.command.readsInput = true)

include hreads

/-- A command that reads an input prints the document that it answers with. -/
theorem Invocation.result_ok {text : String} {v : Json} (h : i.command.result text = .ok v) :
    i.result (some text) = .success (render i.layout v ++ "\n") := by
  have houtput : i.command.output i.layout text = .ok (render i.layout v ++ "\n") := by
    rw [Command.output, h]
    rfl
  rw [result.eq_def, source, if_pos hreads]
  split_ifs <;> simp only [houtput, result.finish]

/-- A command that reads an input reports the failure that it answers with. -/
theorem Invocation.result_error {text : String} {e : Failure}
    (h : i.command.result text = .error e) : i.result (some text) = .failure e := by
  have houtput : i.command.output i.layout text = .error e := by
    rw [Command.output, h]
    rfl
  rw [result.eq_def, source, if_pos hreads]
  split_ifs <;> simp only [houtput, result.finish]

/-- A command that reads an input reports one that cannot be read. -/
theorem Invocation.result_none : i.result none = .failure i.unread := by
  rw [result.eq_def, source, if_pos hreads, unread]
  split_ifs <;> rfl

end Invocations

/-! ## A printed form -/

/-- A form is read from a text that holds its document. -/
theorem readForm_of_readDocument {text : String} {v : Json} {form : Form}
    (hdocument : readDocument text = .ok v) (hform : Form.ofJson v = .ok form) :
    readForm text = .ok form := by
  rw [readForm, hdocument]
  simp only [hform]

/-- A form that was printed in either layout is read back. -/
theorem readForm_render (layout : Layout) (form : Form) :
    readForm (render layout form.toJson ++ "\n") = .ok form := by
  have hplain : Json.Plain Json.Reader.depthLimit form.toJson := form.plain_toJson 124
  have hdocument : readDocument (render layout form.toJson ++ "\n") = .ok form.toJson := by
    rw [readDocument, Json.read?_render hplain]
  exact readForm_of_readDocument hdocument (Form.ofJson_toJson form)

/-- Serializing a printed form answers with its inbound. -/
theorem result_serialize_render (layout : Layout) (form : Form) :
    Command.serialize.result (render layout form.toJson ++ "\n") =
      .ok (Conversion.serialize form) := by
  rw [Command.result, readForm_render]
  rfl

/-! ## Parsing and serializing -/

/-- Parsing and normalizing the same input either both fail, with the same report and nothing
printed, or both succeed; and then serializing what parsing printed prints what normalizing
printed. -/
theorem Invocation.parse_serialize_eq_normalize (input between : String) (layout printed : Layout)
    (text : Option String) :
    (∃ e, (Invocation.mk .parse input printed).result text = .failure e ∧
        (Invocation.mk .normalize input layout).result text = .failure e) ∨
      ∃ form saved, (Invocation.mk .parse input printed).result text = .success form ∧
        (Invocation.mk .normalize input layout).result text = .success saved ∧
        (Invocation.mk .serialize between layout).result (some form) = .success saved := by
  cases text with
  | none => exact Or.inl ⟨_, result_none rfl, result_none rfl⟩
  | some text =>
    cases hdocument : readDocument text with
    | error e =>
      have hparse : Command.parse.result text = .error e := by
        rw [Command.result, hdocument]
        rfl
      have hnormalize : Command.normalize.result text = .error e := by
        rw [Command.result, hdocument]
        rfl
      exact Or.inl ⟨e, result_error rfl hparse, result_error rfl hnormalize⟩
    | ok w =>
      have hparse : Command.parse.result text = .ok (Conversion.parse w).toJson := by
        rw [Command.result, hdocument]
        rfl
      have hnormalize : Command.normalize.result text = .ok (Conversion.normalize w) := by
        rw [Command.result, hdocument]
        rfl
      have hserialize := result_serialize_render printed (Conversion.parse w)
      exact Or.inr ⟨_, _, result_ok rfl hparse, result_ok rfl hnormalize,
        result_ok rfl hserialize⟩

end ProxyInbound.CommandLine
