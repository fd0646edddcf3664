import Formwright.Proofs.Markup.Captions
import Formwright.Proofs.Script.Message
import Formwright.Proofs.Text.Guards

/-!
Prompts in markup and in scripts. The placeholder of a field that gives none is the prompt
with the label, escaped as a whole; the message of its rule is the prompt in front of the
escaped label. Escaping goes through a text sign by sign and leaves the prompt as it is,
so both are the same text.
-/

namespace Formwright

open Text (apostrophe doubleQuote IsEscaped dropGuards escape guardMark)

namespace Item

/-- What an input gets for a placeholder when it gives none is the message of its rule. -/
theorem placeholderText_eq_ruleMessage {item : Item} (h : item.placeholder.getD [] = []) :
    item.placeholderText Template.enterPrompt = Script.ruleMessage item.rule := by
  have heffective : item.effectivePlaceholder Template.enterPrompt =
      Template.enterPrompt ++ item.label := by
    rw [Attributes.effectivePlaceholder]
    cases hplaceholder : item.placeholder with
    | none => rfl
    | some t =>
      rw [hplaceholder] at h
      obtain rfl : t = [] := h
      rfl
  have hprompt : escape Template.enterPrompt = Template.enterPrompt := by decide
  rw [Attributes.placeholderText, heffective, Text.escape_append, hprompt]
  rfl

/-- The lines of an input show the message of its rule as the placeholder, when it gives none. -/
theorem exists_placeholder_spot {item : Item}
    (hkind : item.kind? = some .input ∨ item.kind? = some .textarea)
    (h : item.placeholder.getD [] = []) :
    ∃ block, item.block = .ok block ∧ ∃ spot : AttributeSpot,
      spot.line ∈ Template.blockLines block ∧ spot.name = lit "placeholder" ∧
        spot.value = Script.ruleMessage item.rule := by
  have hvalue := placeholderText_eq_ruleMessage h
  have hspot (block : Block) {spot : AttributeSpot} (hmem : spot ∈ block.captionSpots) :
      spot.line ∈ Template.blockLines block :=
    block.captionSpots_sublist.subset (List.mem_map_of_mem hmem)
  rcases hkind with hkind | hkind
  all_goals
    refine ⟨_, block_eq_ok.mpr ⟨_, widget_eq_ok.mpr (by rw [hkind]), rfl⟩, _,
      hspot _ (List.mem_cons_of_mem _ (List.mem_singleton.mpr rfl)), rfl, hvalue⟩

end Item

/-- Escaping is exact. It loses nothing, as dropping the sign in front of each quote undoes it; the
escaped texts are those in which every quote comes right behind a backslash; it goes through a text
part by part, and it does not matter which kind of quote is guarded first. Hence the placeholder of
a required input that gives none is in the markup what its message is in the script. -/
theorem escape_exact (s t : Text) :
    dropGuards (escape s) = s ∧ ((∃ u, escape u = t) ↔ IsEscaped t) ∧
      escape (s ++ t) = escape s ++ escape t ∧
      guardMark apostrophe (guardMark doubleQuote s) = guardMark doubleQuote (guardMark apostrophe s) ∧
      ∀ (item : Item) (before after : List Item), item.required →
        item.kind? = some .input ∨ item.kind? = some .textarea →
        item.placeholder.getD [] = [] →
        ∃ message, (∃ block, item.block = .ok block ∧ ∃ spot : AttributeSpot,
            spot.line ∈ Template.blockLines block ∧ spot.name = lit "placeholder" ∧
              spot.value = message) ∧
          ∃ behind, Script.build (before ++ item :: after) =
            Script.frontOfMessage before item after ++
              apostrophe :: (message ++ apostrophe :: behind) := by
  refine ⟨Text.dropGuards_escape s, Text.exists_escape_eq_iff, Text.escape_append s t,
    Text.guardMark_comm (by decide) (by decide) (by decide) s, ?_⟩
  intro item before after hrequired hkind hplaceholder
  obtain ⟨behind, hscript⟩ := Script.build_eq_message before after hrequired
  exact ⟨Script.ruleMessage item.rule, Item.exists_placeholder_spot hkind hplaceholder, _, hscript⟩

/-- Quotes side by side and one behind a backslash, and a label with both kinds of quote on a text
area whose placeholder is empty. -/
theorem escape_exact_quotes :
    dropGuards (lit "\\\\'\\'\\\"") = lit "\\''\"" ∧ ¬ (∃ u, escape u = lit "\\''") ∧
      ∃ message, (∃ block,
          Item.block ⟨⟨1, lit "'A\"", lit "a", some [], true, false⟩, .textarea⟩ = .ok block ∧
            ∃ spot : AttributeSpot, spot.line ∈ Template.blockLines block ∧
              spot.name = lit "placeholder" ∧ spot.value = message) ∧
        ∃ front behind,
          Script.build [⟨⟨1, lit "'A\"", lit "a", some [], true, false⟩, .textarea⟩] =
            front ++ apostrophe :: (message ++ apostrophe :: behind) := by
  obtain ⟨hdrop, hescaped, -, -, hprompt⟩ := escape_exact (lit "\\''\"") (lit "\\''")
  obtain ⟨message, hmarkup, hscript⟩ :=
    hprompt ⟨⟨1, lit "'A\"", lit "a", some [], true, false⟩, .textarea⟩ [] [] rfl (.inr rfl) rfl
  refine ⟨hdrop, ?_, message, hmarkup, _, hscript⟩
  rw [hescaped]
  intro h
  exact absurd (h (lit "\\'") apostrophe [] rfl (.inl rfl)) (by decide)

end Formwright
