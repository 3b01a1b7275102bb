import ModelCatalog.Text.CategoryTable

/-!
# General categories

Each character has one general category. Categories of a kind form groups, such as the letters.
-/

namespace ModelCatalog.Text.Category

def upper : CharSet := .ofRuns upperRuns

def lower : CharSet := .ofRuns lowerRuns

def title : CharSet := .ofRuns titleRuns

def modifierLetter : CharSet := .ofRuns modifierLetterRuns

def otherLetter : CharSet := .ofRuns otherLetterRuns

def nonspacing : CharSet := .ofRuns nonspacingRuns

def spacing : CharSet := .ofRuns spacingRuns

def enclosing : CharSet := .ofRuns enclosingRuns

def decimal : CharSet := .ofRuns decimalRuns

def letterNumber : CharSet := .ofRuns letterNumberRuns

def otherNumber : CharSet := .ofRuns otherNumberRuns

def connector : CharSet := .ofRuns connectorRuns

def dash : CharSet := .ofRuns dashRuns

def opening : CharSet := .ofRuns openingRuns

def closing : CharSet := .ofRuns closingRuns

def initialQuote : CharSet := .ofRuns initialQuoteRuns

def finalQuote : CharSet := .ofRuns finalQuoteRuns

def otherPunctuation : CharSet := .ofRuns otherPunctuationRuns

def math : CharSet := .ofRuns mathRuns

def currency : CharSet := .ofRuns currencyRuns

def modifierSymbol : CharSet := .ofRuns modifierSymbolRuns

def otherSymbol : CharSet := .ofRuns otherSymbolRuns

def space : CharSet := .ofRuns spaceRuns

def line : CharSet := .ofRuns lineRuns

def paragraph : CharSet := .ofRuns paragraphRuns

def control : CharSet := .ofRuns controlRuns

def format : CharSet := .ofRuns formatRuns

def privateUse : CharSet := .ofRuns privateUseRuns

/-! ### Groups -/

def casedLetter : CharSet := .unionAll [upper, lower, title]

def letter : CharSet := .unionAll [casedLetter, modifierLetter, otherLetter]

def mark : CharSet := .unionAll [nonspacing, spacing, enclosing]

def number : CharSet := .unionAll [decimal, letterNumber, otherNumber]

def punctuation : CharSet := .unionAll [connector, dash, opening, closing, initialQuote, finalQuote, otherPunctuation]

def symbol : CharSet := .unionAll [math, currency, modifierSymbol, otherSymbol]

def separator : CharSet := .unionAll [space, line, paragraph]

/-- The characters that stand for something. -/
def assigned : CharSet := .unionAll [letter, mark, number, punctuation, symbol, separator, control, format, privateUse]

def unassigned : CharSet := assigned.compl

def other : CharSet := .unionAll [control, format, privateUse, unassigned]

/-- Categories and their groups by name, in the loose form. -/
def named : List (List String × CharSet) :=
  [(["lu", "uppercaseletter"], upper), (["ll", "lowercaseletter"], lower), (["lt", "titlecaseletter"], title),
    (["lc", "casedletter"], casedLetter), (["lm", "modifierletter"], modifierLetter), (["lo", "otherletter"], otherLetter),
    (["l", "letter"], letter), (["mn", "nonspacingmark"], nonspacing), (["mc", "spacingmark"], spacing),
    (["me", "enclosingmark"], enclosing), (["m", "mark", "combiningmark"], mark), (["nd", "decimalnumber", "digit"], decimal),
    (["nl", "letternumber"], letterNumber), (["no", "othernumber"], otherNumber), (["n", "number"], number),
    (["pc", "connectorpunctuation"], connector), (["pd", "dashpunctuation"], dash), (["ps", "openpunctuation"], opening),
    (["pe", "closepunctuation"], closing), (["pi", "initialpunctuation"], initialQuote), (["pf", "finalpunctuation"], finalQuote),
    (["po", "otherpunctuation"], otherPunctuation), (["p", "punct", "punctuation"], punctuation), (["sm", "mathsymbol"], math),
    (["sc", "currencysymbol"], currency), (["sk", "modifiersymbol"], modifierSymbol), (["so", "othersymbol"], otherSymbol),
    (["s", "symbol"], symbol), (["zs", "spaceseparator"], space), (["zl", "lineseparator"], line),
    (["zp", "paragraphseparator"], paragraph), (["z", "separator"], separator), (["cc", "control", "cntrl"], control),
    (["cf", "format"], format), (["co", "privateuse"], privateUse), (["cn", "unassigned"], unassigned), (["c", "other"], other),
    (["any"], .all), (["assigned"], assigned), (["ascii"], .range 0 0x7F)]

end ModelCatalog.Text.Category
