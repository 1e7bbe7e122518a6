import DocStore.Proofs.Command.Clear
import DocStore.Proofs.Query.Predicates

/-!
# Tokens of commands

What the engine reads of a command are the tokens of its text, blanks aside.  They are those of the
command's statement, in which every placeholder is written as the one token of its parameter
(`Command.solidTokens?_render`).  So what a command asks for can be read off its statement, whatever
names and values it is about.
-/

namespace DocStore

open Sql

/-- A template is written as a text with its tokens, where every placeholder has a parameter. -/
theorem Sql.Template.solidTokens?_fill_textAt {t : Template} {params : List Param}
    (hscope : t.Within 1 (params.length + 1)) (hclear : t.Clear true)
    (hparams : Param.AllTokens params) :
    solidTokens? (t.fill (Param.textAt params)) = some (t.solidTokens (Param.tokenAt params)) := by
  have htext : t.fill (Param.textAt params) = t.fill fun n => (Param.tokenAt params n).source :=
    fill_congr hscope fun n h1 h2 => Param.textAt_eq_tokenAt h1 h2
  rw [htext]
  exact solidTokens?_fill (Param.tokens?_tokenAt hparams) (Param.tokenAt_ne_blank hparams) hclear

namespace Command

/-- The tokens of a command. -/
def tokens (c : Command) : List Token :=
  c.toStatement.text.solidTokens (Param.tokenAt c.toStatement.params)

/-- **A command is written as a text with its tokens.** -/
theorem solidTokens?_render {c : Command} (h : c.IsBuilt) :
    ∃ text, c.render = .ok text ∧ solidTokens? text = some c.tokens := by
  have hclear := clear_toStatement h
  exact ⟨_, render_eq h.isOwn, Template.solidTokens?_fill_textAt (scoped_toStatement h.isOwn)
    hclear.text hclear.params⟩

end Command

end DocStore
