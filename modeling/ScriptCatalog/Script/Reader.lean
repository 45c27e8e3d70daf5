import ScriptCatalog.Text.Blank
import ScriptCatalog.Text.Escape

/-! Reading the tokens of a command back. Tokens are separated by blanks; a text between double
quotes is one token, and so is a list in parentheses, with or without a quote mark before it. -/

namespace ScriptCatalog

/-- The rest of a text after the double quote that closes it. -/
def skipQuotedTail : List Char → Option (List Char)
  | [] => none
  | '"' :: rest => some rest
  | '\\' :: [] => none
  | '\\' :: _ :: rest => skipQuotedTail rest
  | _ :: rest => skipQuotedTail rest

theorem skipQuotedTail_shorter (text rest : List Char) (found : skipQuotedTail text = some rest) :
    rest.length < text.length := by
  fun_induction skipQuotedTail text with
  | case1 => simp at found
  | case2 tail => simp at found; subst found; simp
  | case3 => simp at found
  | case4 _ tail ih => have := ih found; simp; omega
  | case5 _ tail _ _ _ ih => have := ih found; simp; omega

/-- The rest of a text after the parenthesis that closes as many lists as were opened, `depth`
of them before the text. -/
def skipListTail (depth : Int) (text : List Char) : Option (List Char) :=
  match text with
  | [] => none
  | '"' :: rest =>
      match found : skipQuotedTail rest with
      | none => none
      | some after =>
          have := skipQuotedTail_shorter rest after found
          skipListTail depth after
  | '(' :: rest => skipListTail (depth + 1) rest
  | ')' :: rest => if depth = 1 then some rest else skipListTail (depth - 1) rest
  | _ :: rest => skipListTail depth rest
  termination_by text.length
  decreasing_by all_goals simp_all; try omega

/-- What follows the token that a text starts with. -/
def skipToken : List Char → Option (List Char)
  | '"' :: rest => skipQuotedTail rest
  | '(' :: rest => skipListTail 1 rest
  | '\'' :: rest => skipListTail 0 rest
  | text => some (text.dropWhile fun c => !isBlank c)

def startsBlank : List Char → Bool
  | [] => true
  | c :: _ => isBlank c

/-- Splits a text into at most `count` tokens. Nothing but a blank may follow a token. -/
def splitTokensUpTo : Nat → List Char → Option (List (List Char))
  | count, text =>
      let text := text.dropWhile isBlank
      if text.isEmpty then some []
      else match count with
        | 0 => none
        | count + 1 => do
            let rest ← skipToken text
            if !startsBlank rest then none
            let tokens ← splitTokensUpTo count rest
            return text.take (text.length - rest.length) :: tokens

/-- The tokens of a text, which cannot be more than its characters. -/
def splitTokens (text : List Char) : Option (List (List Char)) :=
  splitTokensUpTo text.length text

end ScriptCatalog
