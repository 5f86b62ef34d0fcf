import BankQuery.Proofs.Question.Aliases
import BankQuery.Registry.Standard

/-!
# Aliases of the standard registry

The surface forms of the standard registry as the words that a text is searched for, longest first.
-/

namespace BankQuery

/-- Aliases as rows, each an entry with some of its aliases. -/
def Alias.ofRows (rows : List (Nat × List (List String))) : List Alias :=
  rows.flatMap fun row => row.2.map (⟨·, row.1⟩)

namespace Registry

theorem standard_bankAliases : standard.bankAliases = Alias.ofRows [
    (2, [["grupo", "financiero", "banorte"]]), (0, [["banco", "invex"], ["invex", "banco"]]),
    (1, [["bbva", "mexico"], ["bbva", "mexico"], ["bbva", "bancomer"]]),
    (3, [["banco", "santander"], ["santander", "mexico"]]), (4, [["citi", "banamex"]]),
    (5, [["hsbc", "mexico"]]), (6, [["scotiabank", "inverlat"]]), (7, [["banco", "inbursa"]]),
    (8, [["banco", "regional"]]), (9, [["banco", "azteca"]]),
    (10, [["sistema", "bancario"], ["sistema", "financiero"], ["banca", "multiple"],
      ["total", "sistema"]]),
    (0, [["invex"], ["invex"]]), (1, [["bbva"], ["bancomer"]]),
    (2, [["banorte"], ["banorte"], ["gfnorte"]]), (3, [["santander"], ["santander"]]),
    (4, [["banamex"], ["banamex"], ["citibanamex"], ["citi"]]), (5, [["hsbc"], ["hsbc"]]),
    (6, [["scotiabank"], ["scotiabank"], ["scotia"]]), (7, [["inbursa"], ["inbursa"]]),
    (8, [["banregio"], ["banregio"]]), (9, [["azteca"], ["azteca"]]),
    (10, [["system"], ["sistema"], ["mercado"], ["industria"]])] := by
  simp only [bankAliases, Alias.index, Alias.formsFrom_eq, Text.words_eq]
  decide

theorem standard_metricAliases : standard.metricAliases = Alias.ofRows [
    (1, [["cobertura", "de", "cartera", "vencida"]]), (4, [["cartera", "en", "etapa", "3"]]),
    (0, [["indice", "de", "morosidad"], ["indice", "de", "morosidad"],
      ["tasa", "de", "morosidad"]]),
    (1, [["indice", "de", "cobertura"], ["indice", "de", "cobertura"]]),
    (2, [["indice", "de", "capitalizacion"], ["indice", "de", "capitalizacion"]]),
    (3, [["cartera", "de", "credito"], ["saldo", "de", "cartera"]]),
    (4, [["cartera", "etapa", "3"]]),
    (3, [["cartera", "total"], ["cartera", "total"], ["credito", "total"]]),
    (4, [["cartera", "vencida"], ["cartera", "vencida"]]),
    (5, [["reservas", "preventivas"], ["estimaciones", "preventivas"],
      ["reservas", "crediticias"]]),
    (0, [["imor"], ["morosidad"]]), (1, [["icor"], ["cobertura"]]),
    (2, [["icap"], ["capitalizacion"], ["solvencia"]]), (3, [["cartera"]]), (4, [["vencida"]]),
    (5, [["reservas"], ["epcr"]])] := by
  simp only [metricAliases, Alias.index, Alias.formsFrom_eq, Text.words_eq]
  decide

theorem standard_filterAliases : standard.filterAliases = Alias.ofRows [
    (1, [["credito", "al", "consumo"]]),
    (4, [["tarjeta", "de", "credito"], ["tarjeta", "de", "credito"]]),
    (5, [["nomina", "y", "personales"], ["credito", "de", "nomina"]]),
    (0, [["credito", "automotriz"]]), (2, [["credito", "hipotecario"]]),
    (3, [["credito", "comercial"]]), (0, [["automotriz"], ["automotriz"], ["autos"],
      ["automotor"]]),
    (1, [["consumo"], ["consumo"]]),
    (2, [["vivienda"], ["vivienda"], ["hipotecario"], ["hipotecas"]]),
    (3, [["empresas"], ["empresas"], ["empresarial"], ["comercial"]]),
    (4, [["tarjeta"], ["tarjetas"], ["tdc"]]), (5, [["nomina"], ["personales"]])] := by
  simp only [filterAliases, Alias.index, Alias.formsFrom_eq, Text.words_eq]
  decide

end Registry

end BankQuery
