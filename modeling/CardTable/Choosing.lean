import CardTable.Resolution

namespace CardTable

/-!
# Answering a choice

While a choice is pending, a number picks an option, counted from one.  Cards
can still be inspected and the options shown again; nothing else is accepted.
-/

namespace Choosing

def optionLine (label : Nat) (option : String) : String :=
  "\n [" ++ String.ofList (Text.decimal label) ++ "] " ++ option

/-- The lines of the options, numbered from `label` on. -/
def optionLines (label : Nat) : List String -> String
  | [] => ""
  | option :: rest => optionLine label option ++ optionLines (label + 1) rest

def listing (options : List String) : String :=
  "Options:" ++ optionLines 1 options

/-- Digits with at most one sign in front, of any length. -/
def isNumber : List Char -> Bool
  | [] => false
  | c :: rest =>
      if c = '+' || c = '-' then !rest.isEmpty && rest.all Char.isDigit
      else (c :: rest).all Char.isDigit

/-- How a number that picks nothing is shown.  Numbers of at most 64 bits are
shown without padding or plus sign, longer ones as they were typed. -/
def shownNumber (token : String) : String :=
  match Text.integerWithin? 10 (Nat.pow 2 63) token.toList with
  | some value => String.ofList (Text.integer value)
  | none => token

/-- The option that a number picks among `count` options. -/
def picked? (count : Nat) (token : String) : Option Nat :=
  (Text.naturalBelow? (Nat.pow 2 64) token.toList).filter fun which =>
    decide (1 ≤ which) && decide (which ≤ count)

/-- Answer the pending choice.  Only a number that picks an option ends it. -/
def answer (session : Session) (token : String) (arguments : List String) : Outcome × Session :=
  if isNumber token.toList then
    match picked? session.choices.length token with
    | some which =>
        (.send (.choose session.identity.player (UInt64.ofNat which)), session.clear)
    | none => (.info s!"Index {shownNumber token} is out of range.", session)
  else
    let word := Command.folded token
    if word = "inspect" || word = "i" then (Command.inspecting session.identity arguments, session)
    else if word = "again" || word = "a" then (.info (listing session.choices), session)
    else (.failure (.unknownCommand token), session)

end Choosing
end CardTable
