import ThreatModel.Schema.Check

namespace ThreatModel.Schema.Meta

def kinds (ks : List Kind) : Schema := .rules [.kind ks]

def text : Schema := kinds [.string]

def flag : Schema := kinds [.boolean]

def number : Schema := kinds [.number]

def count : Schema := .rules [.kind [.integer], .least (.int 0) false]

def self : Schema := .ref "#"

def schemas : Schema := .rules [.kind [.array], .minItems 1, .items self]

def names : Schema := .rules [.kind [.array], .minItems 1, .items text, .uniqueItems]

def kindName : Schema := .rules [.values (Kind.all.map fun k => .string k.word)]

def either (a b : Schema) : Schema := .rules [.any [a, b]]

def schemaMap : Schema := .rules [.kind [.object], .others [] [] self]

def schema : Schema := .rules
  [.kind [.object],
   .properties
    [("id", text), ("$schema", text), ("title", text), ("description", text),
     ("multipleOf", .rules [.kind [.number], .least (.int 0) true]),
     ("maximum", number), ("exclusiveMaximum", flag), ("minimum", number),
     ("exclusiveMinimum", flag), ("maxLength", count), ("minLength", count), ("pattern", text),
     ("additionalItems", either flag self), ("items", either self schemas), ("maxItems", count),
     ("minItems", count), ("uniqueItems", flag), ("maxProperties", count), ("minProperties", count),
     ("required", names), ("additionalProperties", either flag self), ("definitions", schemaMap),
     ("properties", schemaMap), ("patternProperties", schemaMap),
     ("dependencies", .rules [.kind [.object], .others [] [] (either self names)]),
     ("enum", .rules [.kind [.array], .minItems 1, .uniqueItems]),
     ("type", either kindName
       (.rules [.kind [.array], .items kindName, .minItems 1, .uniqueItems])),
     ("format", text), ("allOf", schemas), ("anyOf", schemas), ("oneOf", schemas), ("not", self)],
   .needs "exclusiveMaximum" ["maximum"],
   .needs "exclusiveMinimum" ["minimum"]]

def validator : Validator := { schema, targets := [("#", schema)] }

end ThreatModel.Schema.Meta
