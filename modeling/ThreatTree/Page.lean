import ThreatTree.Category
import ThreatTree.Embed.Svg
import ThreatTree.Style.Resolve

/-!
# Preview pages

A page shows a picture under its title, with a legend of the categories in it. Titles and colours
are escaped, the picture is markup already and stands as it is. The document travels inside the
picture.
-/

namespace ThreatTree.Page

/-! ### Markup -/

/-- A character as text inside markup. -/
def escapeChar (c : Char) : List Char :=
  if c = '&' then "&amp;".toList
  else if c = '<' then "&lt;".toList
  else if c = '>' then "&gt;".toList
  else if c = '"' then "&#34;".toList
  else if c = '\'' then "&#39;".toList
  else [c]

/-- A text inside markup. -/
def escape (s : String) : String := String.ofList (s.toList.flatMap escapeChar)

/-! ### Look of the page -/

/-- A rule of the style sheet: what it is about and what it says. -/
structure Rule where
  selector : String
  declarations : List String

/-- A rule as a block, indented by two levels. -/
def Rule.text (r : Rule) : String :=
  let declared := r.declarations.map fun d => "      " ++ d ++ ";\n"
  "    " ++ r.selector ++ " \x7b\n" ++ String.join declared ++ "    \x7d\n"

/-- The rules for the page and the legend. -/
def pageRules : List Rule :=
  [⟨"body", ["font-family: Arial, sans-serif", "margin: 0", "padding: 1rem",
      "background: #ffffff"]⟩,
    ⟨"header", ["display: flex", "align-items: baseline", "justify-content: space-between",
      "border-bottom: 1px solid #d2d5dd", "margin-bottom: 1rem"]⟩,
    ⟨".legend span", ["display: inline-block", "padding: 0.2rem 0.6rem", "margin-left: 0.3rem",
      "border-radius: 0.3rem", "font-size: 0.8rem"]⟩,
    ⟨".diagram-container svg", ["max-width: 100%", "height: auto"]⟩]

/-- The rule that hides what the layout program paints behind the picture. -/
def backgroundRule : Rule :=
  ⟨".diagram-container svg > g:first-child > polygon:first-child", ["display: none"]⟩

/-- The rule for what stands below the picture. -/
def footerRule : Rule := ⟨"footer", ["color: #7f8c8d", "font-size: 0.75rem", "margin-top: 1rem"]⟩

/-- The style sheet. -/
def styleSheet : String :=
  String.join (pageRules.map Rule.text)
    ++ "    /* Graphviz paints a white background polygon first. */\n"
    ++ backgroundRule.text ++ footerRule.text

/-! ### Legend -/

/-- A line of the legend. -/
structure LegendItem where
  name : String
  fill : String
  text : String
  deriving DecidableEq, Repr

/-- The colour of text that no style sets. -/
def defaultTextColour : String := "#000000"

/-- The line of a category. -/
def legendItem (theme : String) (c : Category) : Except StyleError LegendItem := do
  let look ← resolveNodeStyle (.category c) theme false
  let text := (look.fontcolor.filter (· ≠ "")).getD defaultTextColour
  return ⟨c.heading, look.fillcolor.getD "", text⟩

/-- The legend of some categories, in the order of sections. -/
def legend (categories : List Category) (theme : String) : Except StyleError (List LegendItem) :=
  (Category.all.filter categories.contains).mapM (legendItem theme)

/-- A line of the legend as markup. -/
def LegendItem.markup (i : LegendItem) : String :=
  "\n      <span style=\"background: " ++ escape i.fill ++ "; color: " ++ escape i.text ++ "\">"
    ++ escape i.name ++ "</span>\n      "

/-! ### The page -/

/-- What a page shows. `time` is when it was made. -/
structure Content where
  title : Option String
  svg : String
  source : String
  categories : List Category
  theme : String
  time : String

/-- The title of a page about a document without one. -/
def untitled : String := "Threat tree"

/-- The title that is shown. An empty title counts as none. -/
def Content.shownTitle (c : Content) : String := (c.title.filter (· ≠ "")).getD untitled

/-- What precedes the picture. -/
def header (title : String) (items : List LegendItem) : String :=
  let title := escape title
  "<!doctype html>\n<html lang=\"en\">\n<head>\n  <meta charset=\"utf-8\">\n  <title>"
    ++ title ++ "</title>\n  <style>\n" ++ styleSheet
    ++ "  </style>\n</head>\n<body>\n  <header>\n    <h1>" ++ title
    ++ "</h1>\n    <div class=\"legend\">\n      " ++ String.join (items.map LegendItem.markup)
    ++ "\n    </div>\n  </header>\n  <div class=\"diagram-container\">\n    "

/-- What follows the picture. -/
def footer (time : String) : String :=
  "\n  </div>\n  <footer>Generated " ++ escape time ++ "</footer>\n</body>\n</html>"

/-- The page. -/
def render (c : Content) : Except StyleError String := do
  let items ← legend c.categories c.theme
  return header c.shownTitle items ++ Embed.Svg.embed c.svg c.source ++ footer c.time

end ThreatTree.Page
