/-
Module: Narrative.Page
Purpose: Playing a story on a web page.
Main exports: escape, page, Request, Response, Website, Website.answer
-/
import Narrative.Session

namespace Narrative

/-! ### The page -/

/-- A character as it is written in a page. -/
def escapeChar : Char → String
  | '&' => "&amp;"
  | '<' => "&lt;"
  | '>' => "&gt;"
  | '\'' => "&#39;"
  | '"' => "&#34;"
  | c => c.toString

/-- A text as it is written in a page. -/
def escape (text : String) : String := String.join (text.toList.map escapeChar)

/-- The page that shows a text. -/
def page (title text : String) : String :=
  joinLines [
    "<!doctype html>",
    "<html lang=\"en\">",
    "<head>",
    "  <meta charset=\"utf-8\">",
    "  <title>" ++ escape title ++ "</title>",
    "  <style>",
    "    body \x7b font-family: monospace; max-width: 48rem; margin: 2rem auto; " ++
      "background: #fff; color: #000; \x7d",
    "    pre \x7b white-space: pre-wrap; border: 3px double #000; padding: 1rem 2rem; \x7d",
    "    input[type=text] \x7b width: 20rem; \x7d",
    "  </style>",
    "</head>",
    "<body>",
    "  <h1>" ++ escape title ++ "</h1>",
    "  <pre>" ++ escape text ++ "</pre>",
    "  <form method=\"post\">",
    "    <input type=\"text\" name=\"command\" autofocus autocomplete=\"off\" " ++
      "placeholder=\"What do you do?\">",
    "    <button type=\"submit\">Go</button>",
    "  </form>",
    "</body>",
    "</html>"]

/-! ### Requests -/

/-- A request: for the page, or with a form that may hold a command. -/
inductive Request where
  | get
  | post (command? : Option String)
deriving Repr, DecidableEq

/-- An answer to a request: its code, and a page if all is well. -/
structure Response where
  code : Nat
  body? : Option String
deriving Repr, DecidableEq

namespace Response

/-- An answer with a page. -/
def shown (body : String) : Response := ⟨200, some body⟩

/-- The answer to a form without a command. -/
def badRequest : Response := ⟨400, none⟩

/-- The answer if something fails that is not foreseen. -/
def serverError : Response := ⟨500, none⟩

end Response

/-- A story on a web page: the app, the text that is shown, and the random numbers that are left. -/
structure Website where
  app : App
  text? : Option String := none
  picks : List Int

/-- What a website does. It keeps the state that it has reached if there is a fault. -/
abbrev Serve (α : Type) := ExceptT TalkFault (StateM Website) α

namespace Serve

/-- Lets the app act. -/
def act {α : Type} (action : Act α) : Serve (Except AppFault α) := do
  let site ← get
  let (outcome, app) := action.run.run site.app
  set { site with app }
  return outcome

/-- The plain text of a text with markup. -/
def expand (text : String) : Serve String := do
  let site ← get
  let rendering := Markup.render text.toList { picks := site.picks }
  set { site with app := site.app.afterText rendering.final, picks := rendering.final.picks }
  match rendering.failure? with
  | none => return String.ofList rendering.text
  | some failure => throw (.markup failure)

/-- Shows a text from now on. -/
def remember (text : String) : Serve Unit := modify fun site => { site with text? := some text }

/-- The text that answers a command. -/
def answerText (command : String) : Serve String := do
  match ← act (Act.handleLine command) with
  | .ok reply => expand reply.message
  | .error (.story error) =>
    if error.isTold then return storyErrorText error else throw (.app (.story error))
  | .error fault => throw (.app fault)

/-- The text of the beginning. Whoever comes first is at a location. -/
def introText : Serve String := do
  let intro : Play Reply := do
    Play.setMode (.explore (← get).mode.selected?)
    Play.intro
  match ← act (Act.play intro) with
  | .ok reply => expand reply.message
  | .error fault => throw (.app fault)

/-- The text to show for a request that has all it needs. Asking for the page again shows the same
text and evaluates nothing. -/
def textFor (command? : Option String) : Serve String := do
  match command?, (← get).text? with
  | none, some text => return text
  | none, none =>
    let text ← introText
    remember text
    return text
  | some command, _ =>
    let text := "> " ++ command ++ "\n\n" ++ (← answerText command)
    remember text
    return text

end Serve

namespace Website

/-- Answers a request. -/
def answer (site : Website) (request : Request) : Website × Response :=
  let serve (command? : Option String) : Website × Response :=
    match (Serve.textFor command?).run.run site with
    | (.ok text, site) => (site, .shown (page site.app.title text))
    | (.error _, site) => (site, .serverError)
  match request with
  | .get => serve none
  | .post (some command) => serve (some command)
  | .post none => (site, .badRequest)

end Website

end Narrative
