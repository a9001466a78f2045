import ProxyInbound.Conversion

/-!
# Editing sessions

A session holds one form and takes steps on it. An edit replaces the form or fills in a section read
from a document; a patch puts other values into some of its fields; and the form or one of its
sections can be written. A patch that is refused leaves the form as it was.
-/

namespace ProxyInbound.Session

open Wire

/-- A step that makes a form of the form. -/
inductive Edit where
  /-- Start over with the defaults of a protocol. -/
  | defaults (protocol : Protocol)
  /-- Open a stored inbound. -/
  | parse (document : Json)
  /-- Save the form and open what was saved. -/
  | reopen
  /-- Fill in the settings of a protocol; the selected protocol stays. -/
  | settings (protocol : Protocol) (value : Json)
  /-- Fill in the network that stream settings hold, and select it. -/
  | transport (network : Network) (stream : Json)
  /-- Fill in the security that stream settings hold, and select it. -/
  | security (security : Security) (stream : Json)
  /-- Fill in socket options and enable them. -/
  | sockopt (value : Json)
  /-- Fill in a sniffing block. -/
  | sniffing (value : Json)

/-- What can be written of a form. -/
inductive Section where
  /-- The inbound. -/
  | inbound
  /-- The settings of the selected protocol. -/
  | settings
  /-- The settings of the selected network under their key. -/
  | transport
  /-- The settings of the selected security under their key, or null. -/
  | security
  /-- The socket options, enabled or not. -/
  | sockopt
  /-- The sniffing block. -/
  | sniffing
  deriving DecidableEq, Repr

/-- What can be done in a session. -/
inductive Step where
  /-- Make another form of the form. -/
  | edit (edit : Edit)
  /-- Put other values into some of the form's fields. -/
  | patch (fields : List (String × Json))
  /-- Write the form or a section of it. -/
  | write (part : Section)

/-- What comes of a step. -/
inductive Outcome where
  /-- The fields whose values are others than before. -/
  | changed (fields : List (String × Json))
  /-- What was written. -/
  | written (value : Json)
  /-- Why the patched form was refused. -/
  | refused (fault : Json.Strict.Fault)

/-- The form with the security that stream settings hold; without security nothing happens. -/
def fillSecurity (security : Security) (stream : Json) (form : Form) : Form :=
  match SecuritySettings.ofStored? security stream with
  | some s => s.fill form
  | none => form

/-- The form that an edit makes of a form. -/
def Edit.apply (edit : Edit) (form : Form) : Form :=
  match edit with
  | defaults protocol => Form.defaults protocol
  | parse document => Conversion.parse document
  | reopen => Conversion.parse (Conversion.serialize form)
  | settings protocol value => (Settings.ofStored protocol value).fill form
  | transport network stream => (Transport.ofStored network stream).fill form
  | security kind stream => fillSecurity kind stream form
  | sockopt value => { form with sockopt := (Sockopt.ofStored value).fill form.sockopt }
  | sniffing value => { form with sniffing := Sniffing.fillStored value form.sniffing }

/-- The form after edits, one after the other. -/
def edited (form : Form) (edits : List Edit) : Form :=
  edits.foldl (fun form edit => edit.apply form) form

/-- The settings of a network under their key. -/
def transportJson (t : Transport) : Json :=
  Json.ofMembers [(t.network.settingsKey, t.toJson)]

/-- The settings of a security under their key, or null. -/
def securityJson (s : Option SecuritySettings) : Json :=
  match s with
  | some s => Json.ofMembers [(s.key, s.toJson)]
  | none => .null

/-- The form or a section of it as JSON. -/
def Section.toJson (part : Section) (form : Form) : Json :=
  match part with
  | inbound => Conversion.serialize form
  | settings => (Settings.ofForm form).toJson
  | transport => transportJson (Transport.ofForm form)
  | security => securityJson (SecuritySettings.ofForm? form)
  | sockopt => (Sockopt.ofForm form.sockopt).toJson
  | sniffing => (Sniffing.ofForm form.sniffing).toJson

/-- The form with other values in some fields, read like any submitted form. -/
def patched (fields : List (String × Json)) (form : Form) : Except Json.Strict.Fault Form :=
  Form.ofJson (Json.ofMembers (Form.shape.fields form ++ fields))

/-- Take one step: the form after it and what came of it. -/
def step (form : Form) (s : Step) : Form × Outcome :=
  match s with
  | .edit edit =>
    let next := edit.apply form
    (next, .changed (form.changes next))
  | .patch fields =>
    match patched fields form with
    | .ok next => (next, .changed (form.changes next))
    | .error fault => (form, .refused fault)
  | .write part => (form, .written (part.toJson form))

/-- What comes of steps, one after the other. -/
def run : Form → List Step → List Outcome
  | _, [] => []
  | form, s :: rest => (step form s).2 :: run (step form s).1 rest

end ProxyInbound.Session
