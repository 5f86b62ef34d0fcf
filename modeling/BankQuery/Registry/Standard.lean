import BankQuery.Registry.Basic

/-!
# The standard registry

Banks, metrics, segments and tables of the Mexican commercial banking system. It is used when no
other registry is given.
-/

namespace BankQuery.Registry

def standardBanks : List Bank := [
  { id := "INVEX", displayName := "Invex", aliases := ["banco invex", "invex banco"] },
  { id := "BBVA", displayName := "BBVA México",
    aliases := ["bbva mexico", "bancomer", "bbva bancomer"] },
  { id := "BANORTE", displayName := "Banorte", aliases := ["gfnorte", "grupo financiero banorte"] },
  { id := "SANTANDER", displayName := "Santander",
    aliases := ["banco santander", "santander mexico"] },
  { id := "BANAMEX", displayName := "Banamex", aliases := ["citibanamex", "citi banamex", "citi"] },
  { id := "HSBC", displayName := "HSBC", aliases := ["hsbc mexico"] },
  { id := "SCOTIABANK", displayName := "Scotiabank", aliases := ["scotia", "scotiabank inverlat"] },
  { id := "INBURSA", displayName := "Inbursa", aliases := ["banco inbursa"] },
  { id := "BANREGIO", displayName := "Banregio", aliases := ["banco regional"] },
  { id := "AZTECA", displayName := "Banco Azteca", aliases := ["azteca"] },
  { id := "SYSTEM", displayName := "Sistema",
    aliases := ["sistema bancario", "sistema financiero", "banca multiple", "total sistema",
      "mercado", "industria"],
    aggregate := true }]

def standardMetrics : List Metric := [
  { code := "IMOR", displayName := "Índice de morosidad",
    description := "Cartera vencida entre cartera total; mide el deterioro del crédito",
    aliases := ["indice de morosidad", "morosidad", "tasa de morosidad"],
    column := "imor", unit := .ratio, validRange := some ⟨0, 1⟩, segmented := true,
    higherIsWorse := true },
  { code := "ICOR", displayName := "Índice de cobertura",
    description := "Estimaciones preventivas entre cartera vencida",
    aliases := ["indice de cobertura", "cobertura", "cobertura de cartera vencida"],
    column := "icor", unit := .ratio, validRange := some ⟨0, 10⟩, segmented := true },
  { code := "ICAP", displayName := "Índice de capitalización",
    description := "Capital neto entre activos sujetos a riesgo totales, en porcentaje",
    aliases := ["indice de capitalizacion", "capitalizacion", "solvencia"],
    column := "icap", unit := .percent, validRange := some ⟨0, 100⟩ },
  { code := "CARTERA_TOTAL", displayName := "Cartera total",
    description := "Saldo de la cartera de crédito total en millones de pesos",
    aliases := ["cartera", "cartera de credito", "credito total", "saldo de cartera"],
    column := "cartera_total", unit := .millions, validRange := some ⟨0, 5000000⟩,
    segmented := true },
  { code := "CARTERA_VENCIDA", displayName := "Cartera vencida",
    description := "Saldo de la cartera en etapa 3 en millones de pesos",
    aliases := ["vencida", "cartera en etapa 3", "cartera etapa 3"],
    column := "cartera_vencida", unit := .millions, validRange := some ⟨0, 500000⟩,
    segmented := true, higherIsWorse := true },
  { code := "RESERVAS", displayName := "Reservas preventivas",
    description := "Estimaciones preventivas para riesgos crediticios en millones de pesos",
    aliases := ["estimaciones preventivas", "epcr", "reservas crediticias"],
    column := "reservas", unit := .millions, validRange := some ⟨0, 500000⟩ }]

def standardFilters : List SegmentFilter := [
  { id := "automotriz", displayName := "Automotriz",
    aliases := ["autos", "automotor", "credito automotriz"] },
  { id := "consumo", displayName := "Consumo", aliases := ["credito al consumo"] },
  { id := "vivienda", displayName := "Vivienda",
    aliases := ["hipotecario", "hipotecas", "credito hipotecario"] },
  { id := "empresas", displayName := "Empresas",
    aliases := ["empresarial", "comercial", "credito comercial"] },
  { id := "tarjeta", displayName := "Tarjeta de crédito",
    aliases := ["tarjetas", "tarjeta de credito", "tdc"] },
  { id := "nomina", displayName := "Nómina y personales",
    aliases := ["personales", "credito de nomina"] }]

def standardPrimary : Table where
  name := "monthly_kpis"
  description := "Indicadores mensuales por banco, incluido el agregado del sistema"
  columns := [
    ⟨"bank_id", "text", "Identificador canónico del banco"⟩,
    ⟨"period", "date", "Primer día del mes reportado"⟩,
    ⟨"imor", "double precision", "Índice de morosidad (fracción)"⟩,
    ⟨"icor", "double precision", "Índice de cobertura (fracción)"⟩,
    ⟨"icap", "double precision", "Índice de capitalización (porcentaje)"⟩,
    ⟨"cartera_total", "double precision", "Cartera total, millones MXN"⟩,
    ⟨"cartera_vencida", "double precision", "Cartera vencida, millones MXN"⟩,
    ⟨"reservas", "double precision", "Reservas preventivas, millones MXN"⟩]
  timeColumn := "period"
  bankColumn := "bank_id"

def standardSegments : Table where
  name := "segment_kpis"
  description := "Indicadores mensuales por banco y segmento de crédito"
  columns := [
    ⟨"bank_id", "text", "Identificador canónico del banco"⟩,
    ⟨"period", "date", "Primer día del mes reportado"⟩,
    ⟨"segment", "text", "Segmento de crédito (automotriz, consumo...)"⟩,
    ⟨"imor", "double precision", "Índice de morosidad del segmento"⟩,
    ⟨"icor", "double precision", "Índice de cobertura del segmento"⟩,
    ⟨"cartera_total", "double precision", "Cartera del segmento, millones MXN"⟩,
    ⟨"cartera_vencida", "double precision", "Cartera vencida del segmento"⟩]
  timeColumn := "period"
  bankColumn := "bank_id"
  segmentColumn := some "segment"

def standard : Registry where
  banks := standardBanks
  metrics := standardMetrics
  filters := standardFilters
  unsupportedTerms := ["roe", "roa", "utilidad", "utilidad neta", "margen financiero", "nim",
    "indice de eficiencia", "eficiencia operativa"]
  schema := ⟨[standardPrimary, standardSegments], "monthly_kpis", some "segment_kpis"⟩

end BankQuery.Registry
