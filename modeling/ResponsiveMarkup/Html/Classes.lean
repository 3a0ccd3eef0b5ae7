import ResponsiveMarkup.Html.Tree

/-!
The classes of elements that the growth of an HTML tree depends on. A class holds HTML elements only unless it
says otherwise.
-/

namespace ResponsiveMarkup.Html

namespace Element

/-- An HTML element with one of these names. -/
def isOneOf (names : List String) (e : Element) : Bool := e.space == .html && names.contains e.name

def isNamed (name : String) (e : Element) : Bool := e.space == .html && e.name == name

/-- MathML elements whose content is text. -/
def isMathText (e : Element) : Bool :=
  e.space == .mathml && ["mi", "mo", "mn", "ms", "mtext"].contains e.name

/-- SVG elements whose content is HTML. -/
def isSvgHtml (e : Element) : Bool :=
  e.space == .svg && ["foreignObject", "desc", "title"].contains e.name

def htmlScopeEnds : List String :=
  ["applet", "caption", "html", "table", "td", "th", "marquee", "object", "template"]

/-- Elements that close off what is open outside of them. -/
def endsScope (e : Element) : Bool := e.isOneOf htmlScopeEnds || e.isMathText || e.isSvgHtml

def endsListScope (e : Element) : Bool := e.endsScope || e.isOneOf ["ol", "ul"]

def endsButtonScope (e : Element) : Bool := e.endsScope || e.isNamed "button"

def endsTableScope (e : Element) : Bool := e.isOneOf ["html", "table", "template"]

def endsSelectScope (e : Element) : Bool := !e.isOneOf ["optgroup", "option"]

/-- Elements around which table parts cannot be moved further out. -/
def endsBodyContext (e : Element) : Bool := e.isOneOf ["tbody", "tfoot", "thead", "template", "html"]

def endsRowContext (e : Element) : Bool := e.isOneOf ["tr", "template", "html"]

/-- Inside these, what does not belong into a table goes in front of it. -/
def isTablePart (e : Element) : Bool := e.isOneOf ["table", "tbody", "tfoot", "thead", "tr"]

/-- Elements whose end tag may be left out. -/
def closesItself (e : Element) : Bool :=
  e.isOneOf ["dd", "dt", "li", "option", "optgroup", "p", "rb", "rp", "rt", "rtc"]

/-- The same at the end of a template. -/
def closesItselfInTemplate (e : Element) : Bool :=
  e.closesItself ||
    e.isOneOf ["caption", "colgroup", "tbody", "td", "tfoot", "th", "thead", "tr"]

def isHeading (e : Element) : Bool := e.isOneOf ["h1", "h2", "h3", "h4", "h5", "h6"]

def isCell (e : Element) : Bool := e.isOneOf ["td", "th"]

/-- Elements that an end tag of another name does not reach past. -/
def specialNames : List String :=
  ["address", "applet", "area", "article", "aside", "base", "basefont", "bgsound", "blockquote", "body",
   "br", "button", "caption", "center", "col", "colgroup", "dd", "details", "dir", "div", "dl", "dt",
   "embed", "fieldset", "figcaption", "figure", "footer", "form", "frame", "frameset", "h1", "h2", "h3",
   "h4", "h5", "h6", "head", "header", "hgroup", "hr", "html", "iframe", "img", "input", "isindex", "li",
   "link", "listing", "main", "marquee", "menu", "meta", "nav", "noembed", "noframes", "noscript", "object",
   "ol", "p", "param", "plaintext", "pre", "script", "section", "select", "source", "style",
   "summary", "table", "tbody", "td", "template", "textarea", "tfoot", "th", "thead", "title", "tr", "track",
   "ul", "wbr", "xmp"]

def isSpecial (e : Element) : Bool := e.isOneOf specialNames

/-- Elements that stop the search for an open list item. -/
def stopsItemSearch (e : Element) : Bool := e.isSpecial && !e.isOneOf ["address", "div", "p"]

end Element

/-- Start tags that leave foreign content. -/
def breakoutNames : List String :=
  ["b", "big", "blockquote", "body", "br", "center", "code", "dd", "div", "dl", "dt", "em", "embed", "h1",
   "h2", "h3", "h4", "h5", "h6", "head", "hr", "i", "img", "li", "listing", "menu", "meta", "nobr", "ol",
   "p", "pre", "ruby", "s", "small", "span", "strong", "strike", "sub", "sup", "table", "tt", "u", "ul",
   "var"]

/-- Blocks that close an open paragraph and have an end tag of their own. -/
def blockNames : List String :=
  ["address", "article", "aside", "blockquote", "center", "details", "dialog", "dir", "div", "dl",
   "fieldset", "figcaption", "figure", "footer", "header", "hgroup", "main", "menu", "nav", "ol", "search",
   "section", "summary", "ul"]

/-- Elements that are opened again where a block cut them off. -/
def formattingNames : List String :=
  ["b", "big", "code", "em", "font", "i", "s", "small", "strike", "strong", "tt", "u"]

/-- Elements that may stand before the body. -/
def headNames : List String :=
  ["base", "basefont", "bgsound", "link", "meta", "noframes", "script", "style", "template", "title"]

/-- Elements that only mean something inside a table. -/
def tableOnlyNames : List String :=
  ["caption", "col", "colgroup", "tbody", "td", "tfoot", "th", "thead", "tr"]

/-- The case that SVG names are written in, by their lower case. -/
def svgNames : List (String × String) :=
  [("altglyph", "altGlyph"), ("altglyphdef", "altGlyphDef"), ("altglyphitem", "altGlyphItem"),
   ("animatecolor", "animateColor"), ("animatemotion", "animateMotion"),
   ("animatetransform", "animateTransform"), ("clippath", "clipPath"), ("feblend", "feBlend"),
   ("fecolormatrix", "feColorMatrix"), ("fecomponenttransfer", "feComponentTransfer"),
   ("fecomposite", "feComposite"), ("feconvolvematrix", "feConvolveMatrix"),
   ("fediffuselighting", "feDiffuseLighting"), ("fedisplacementmap", "feDisplacementMap"),
   ("fedistantlight", "feDistantLight"), ("fedropshadow", "feDropShadow"), ("feflood", "feFlood"),
   ("fefunca", "feFuncA"), ("fefuncb", "feFuncB"), ("fefuncg", "feFuncG"), ("fefuncr", "feFuncR"),
   ("fegaussianblur", "feGaussianBlur"), ("feimage", "feImage"), ("femerge", "feMerge"),
   ("femergenode", "feMergeNode"), ("femorphology", "feMorphology"), ("feoffset", "feOffset"),
   ("fepointlight", "fePointLight"), ("fespecularlighting", "feSpecularLighting"),
   ("fespotlight", "feSpotLight"), ("fetile", "feTile"), ("feturbulence", "feTurbulence"),
   ("foreignobject", "foreignObject"), ("glyphref", "glyphRef"), ("lineargradient", "linearGradient"),
   ("radialgradient", "radialGradient"), ("textpath", "textPath")]

end ResponsiveMarkup.Html
