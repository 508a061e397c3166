import Scribe.Html.Node

/-!
# Spellings of other vocabularies

Names are read in lower case. Some names of other vocabularies have capitals inside: a name that is
one of them but for case is written with its capitals.
-/

namespace Scribe.Html

/-- Elements of SVG whose names have capitals. -/
def svgElements : List String :=
  ["altGlyph", "altGlyphDef", "altGlyphItem", "animateColor", "animateMotion", "animateTransform",
   "clipPath", "feBlend", "feColorMatrix", "feComponentTransfer", "feComposite",
   "feConvolveMatrix", "feDiffuseLighting", "feDisplacementMap", "feDistantLight", "feDropShadow",
   "feFlood", "feFuncA", "feFuncB", "feFuncG", "feFuncR", "feGaussianBlur", "feImage", "feMerge",
   "feMergeNode", "feMorphology", "feOffset", "fePointLight", "feSpecularLighting", "feSpotLight",
   "feTile", "feTurbulence", "foreignObject", "glyphRef", "linearGradient", "radialGradient",
   "textPath"]

/-- Attributes of SVG whose names have capitals. -/
def svgAttributes : List String :=
  ["attributeName", "attributeType", "baseFrequency", "baseProfile", "calcMode", "clipPathUnits",
   "diffuseConstant", "edgeMode", "filterUnits", "glyphRef", "gradientTransform", "gradientUnits",
   "kernelMatrix", "kernelUnitLength", "keyPoints", "keySplines", "keyTimes", "lengthAdjust",
   "limitingConeAngle", "markerHeight", "markerUnits", "markerWidth", "maskContentUnits",
   "maskUnits", "numOctaves", "pathLength", "patternContentUnits", "patternTransform",
   "patternUnits", "pointsAtX", "pointsAtY", "pointsAtZ", "preserveAlpha", "preserveAspectRatio",
   "primitiveUnits", "refX", "refY", "repeatCount", "repeatDur", "requiredExtensions",
   "requiredFeatures", "specularConstant", "specularExponent", "spreadMethod", "startOffset",
   "stdDeviation", "stitchTiles", "surfaceScale", "systemLanguage", "tableValues", "targetX",
   "targetY", "textLength", "viewBox", "viewTarget", "xChannelSelector", "yChannelSelector",
   "zoomAndPan"]

/-- Attributes of MathML whose names have capitals. -/
def mathAttributes : List String := ["definitionURL"]

/-- The spelling of a name in lower case that a list gives, or the name itself. -/
def spellingIn (names : List String) (name : String) : String :=
  (names.find? fun n => n.toLower == name).getD name

/-- The spelling of the name of an element. -/
def elementSpelling (v : Vocabulary) (name : String) : String :=
  if v = .svg then spellingIn svgElements name else name

/-- The spelling of the name of an attribute. -/
def attributeSpelling (v : Vocabulary) (name : String) : String :=
  match v with
  | .html => name
  | .svg => spellingIn svgAttributes name
  | .math => spellingIn mathAttributes name

end Scribe.Html
