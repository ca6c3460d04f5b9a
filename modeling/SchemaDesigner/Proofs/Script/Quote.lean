/-
Names between delimiters: no name gets out of them, and what follows a name is read for itself.

* `Dialect.closing?`: the character that closes a name, in the dialects that delimit names;
* `exists_opening_quote`: such a name as it is written, behind the character that opens it;
* `tokenize_quote_append_iff`: a name of any characters is one token in front of any text, and the
  tokens of that text follow it, if and only if the text does not go on with a delimiter.
-/
import SchemaDesigner.Dialect
import SchemaDesigner.Proofs.Script.Scan

namespace SchemaDesigner

/-- The character that closes a name, in the dialects that write names between delimiters. -/
def Dialect.closing? : Dialect → Option Char
  | postgreSql | cockroachDb | oracle => some '"'
  | sqlServer => some ']'
  | standard | mySql | sqlite => none

namespace Script

open Text

variable {d : Dialect} {close : Char}

/-- A delimited name is opened by a character whose counterpart closes it, and in between it stands
with the closing character doubled. -/
lemma exists_opening_quote (hd : d.closing? = some close) (name : String) :
    ∃ c, closing? c = some close
      ∧ d.quote name = String.singleton c ++ doubled close name ++ String.singleton close := by
  cases d with
  | postgreSql | cockroachDb | oracle =>
    cases hd
    exact ⟨'"', rfl, rfl⟩
  | sqlServer =>
    cases hd
    exact ⟨'[', rfl, rfl⟩
  | standard | mySql | sqlite => cases hd

/-- A delimited name is one token, whatever its characters are, and the tokens of what follows it
come next, if and only if that does not begin with the closing delimiter. -/
theorem tokenize_quote_append_iff (hd : d.closing? = some close) (name rest : String) :
    tokenize (d.quote name ++ rest) = .ident name :: tokenize rest
      ↔ rest.toList.head? ≠ some close := by
  obtain ⟨c, hc, hquote⟩ := exists_opening_quote hd name
  rw [tokenize, tokenize, String.toList_append, hquote]
  constructor
  · -- a delimiter right behind the closing one is taken for a part of the name
    intro htokens hhead
    obtain ⟨r, hrest⟩ := List.head?_eq_some_iff.mp hhead
    have hlist : (String.singleton c ++ doubled close name ++ String.singleton close).toList
        ++ rest.toList = c :: (doubleChars close name.toList ++ close :: close :: r) := by
      simp [doubled, hrest]
    rw [hlist, scan_cons_of_some (next_closing hc), readDelimited_doubleChars_append] at htokens
    have hname := congrArg String.toList (Token.ident.inj (List.cons.inj htokens).1)
    simp [readDelimited] at hname
  · exact Reads.scan_delimited_append hc name

/-- A name that tries to close its brackets and to go on with a statement and a comment. -/
theorem tokenize_quote_append_brackets : Dialect.sqlServer.closing? = some ']'
    ∧ " (x)".toList.head? ≠ some ']'
    ∧ tokenize (Dialect.sqlServer.quote "a]; DROP TABLE t; --\n]]" ++ " (x)")
      = [.ident "a]; DROP TABLE t; --\n]]", .lparen, .ident "x", .rparen] := by
  have hrest : " (x)".toList.head? ≠ some ']' := by decide
  have htokens := (tokenize_quote_append_iff (d := .sqlServer) rfl "a]; DROP TABLE t; --\n]]"
    " (x)").mpr hrest
  refine ⟨rfl, hrest, htokens.trans ?_⟩
  decide +kernel

end Script

end SchemaDesigner
