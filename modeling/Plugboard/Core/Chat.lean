import Plugboard.Code

/-!
The chat plugin: a panel with a greeting and a limit on the messages that are kept.
-/
namespace Plugboard.Chat

def defaultLimit : String := "50"

/-- The number a history limit stands for. -/
def readLimit (s : String) : Except Text.WholeError Nat := Text.readWhole Text.max32 (Text.trim s)

def checkLimit : Validator := fun v =>
  match readLimit v with
  | .ok n => if 0 < n then none else some "must be a positive whole number"
  | .error _ => some "must be a positive whole number"

def schema : Schema := Schema.ofList [
  ("history_limit",
    ⟨.number, "Messages to keep", false, some defaultLimit, some checkLimit⟩),
  ("greeting", .plain .string "Greeting")]

/-- The text of the panel, or what is wrong with the settings. -/
def panelText (c : Context) : Except String String :=
  match readLimit ((c.settings.get? "history_limit").getD defaultLimit) with
  | .error e => .error ("invalid history_limit: " ++ e.message)
  | .ok limit =>
    let signed := if c.token.isSome then "signed in" else "signed out"
    let greeting := (c.settings.get? "greeting").getD "How can I help?"
    .ok ("Chat (" ++ signed ++ ")\n" ++ greeting ++ "\nKeeping the last " ++ toString limit ++
      " messages.")

def definition : Definition Code :=
  { Definition.plain "chat" "Chat" with
    description := "Conversational assistant panel"
    author := "Panelhost Developers"
    tags := ["chat", "assistant", "messages"]
    core := true
    category := .communication
    panel := some (.ofText panelText)
    routes := [⟨"/chat", "Chat"⟩]
    schema := some schema
    init := some fun _ => .later .skip
    destroy := some .skip
    sidebar := ⟨true, some "message-square", none, some 10⟩ }

end Plugboard.Chat
