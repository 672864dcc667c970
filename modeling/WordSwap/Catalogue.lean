import WordSwap.Rule

namespace WordSwap.Catalogue

open Rule

def miscellany : List Rule :=
  [ofPair "cheese" "hardmilk",
   (ofPair "milk" "cow juice").withOutputPlurals ["cow juices"],
   (ofPair "allegedly" "probably").withoutPlurals,
   ((ofPair "new study" "recent rumour").withInputPlurals ["new studies"]).bothWays,
   (ofPair "rebuild" "avenge").bothWays,
   ofPair "text" "scribble",
   ofPair "writer" "scribbler",
   (ofPair "theory" "guesswork").withInputPlurals ["theories"],
   (ofPair "research" "messing around").withoutPlurals,
   (ofPair "creativity" "madness").withoutPlurals,
   ofPair "idea" "notion",
   ofPair "language" "lingo",
   ofPair "evidence" "ancient legends",
   ofPair "hormones" "jelly beans",
   ofPair "people" "folk",
   ofPair "engineering" "bodging",
   (ofPair "authority" "in-chargeness").withoutPlurals,
   (ofPair "productivity" "profitability").bothWays,
   (ofPair "wrongly" "rightly").bothWays,
   (ofPair "elongation" "enlengthening").bothWays.withoutPlurals,
   (ofPair "essential" "optional").bothWays,
   (ofPair "mandatory" "recommended").bothWays,
   (ofPair "necessary" "impossible").bothWays,
   ofPair "flood" "surprise bath",
   ofPair "resident" "dweller",
   ((ofPair "foot" "hand").withInputPlurals ["feet"]).bothWays,
   (ofPair "bucket" "cup").bothWays,
   (ofPair "blood" "custard").bothWays.withoutPlurals,
   ofPair "group" "cult",
   ofPair "representative" "deniable agent",
   ofPair "communication" "interference",
   ofPair "communicator" "meddler",
   (ofPair "won't" "will").withoutPlurals.bothWays,
   (ofPair "consulted" "interrogated").withoutPlurals.bothWays,
   (ofPair "consultation" "interrogation").bothWays,
   (ofPair "brain tumour" "headache").bothWays,
   ofPair "yes" "no",
   (ofPair "should" "shouldn't").bothWays,
   (ofPair "curious" "fearful").bothWays,
   (ofPair "figuratively" "literally").bothWays,
   (ofPair "principles" "quirks").bothWays,
   (ofPair "robust" "shoddy").bothWays.withoutPlurals,
   (ofSpellings ["verifiable", "verified"] ["legit"]).bothWays.withoutPlurals]

def questions : List Rule :=
  [(ofPair "why" "how").withoutPlurals,
   (ofPair "how" "when").withoutPlurals,
   (ofPair "when" "where").withoutPlurals,
   (ofPair "where" "what").withoutPlurals,
   (ofPair "what" "who").withoutPlurals,
   (ofPair "who" "why").withoutPlurals]

def measures : List Rule :=
  [ofPair "measurement" "reckoning",
   ofPair "measure" "reckon"]

def materials : List Rule :=
  [(ofSpellings ["concrete"] ["papier mache", "papier-mâché"]).bothWays,
   ofPair "philosophy" "pondering",
   ofPair "philosopher" "ponderer",
   ofPair "philosophical" "ponderous",
   (ofPair "woke" "awakened").bothWays,
   (ofPair "blessed" "cursed").bothWays]

def units : List Rule :=
  [(ofPair "mile" "furlong").bothWays,
   (ofSpellings ["kilometre", "kilometer"] ["league"]).bothWays,
   (ofSpellings ["litre", "liter"] ["dram"]).bothWays]

def givenNames : List Rule :=
  [ofPair "charles" "charler",
   ofPair "ben" "benjermy",
   ofPair "benjamin" "benjermy",
   ofPair "larry" "larriott"]

def heresy : List Rule :=
  [(ofSpellings ["the pope", "pope Francis", "pope"] ["Satan"]).withCaseMode .ignore,
   (ofPair "pope" "Satan").withCaseMode .ignore,
   (ofPair "bible" "1987 Sports Illustrated Swimsuit Issue").withCaseMode .ignore,
   ofPair "biblical" "literary"]

def animals : List Rule :=
  [(ofPair "drone" "dog").bothWays,
   (ofPair "bird" "snake").bothWays,
   ofPair "self driving" "possessed",
   ofPair "self-driving" "possessed",
   (ofPair "successfully" "suddenly").bothWays,
   ofPair "tension" "sexual tension",
   (ofPair "optimistic" "delusional").bothWays,
   (ofPair "CEO" "Head Honcho").withCaseMode .matchExact]

def ships : List Rule :=
  [((ofPair "ship" "dinghy").withOutputPlurals ["dinghies"]).bothWays,
   (ofPair "yacht" "galleon").bothWays,
   (ofPair "boat" "oil tanker").bothWays]

def durations : List Rule :=
  [(ofPair "second" "year").bothWays,
   (ofPair "minute" "month").bothWays,
   (ofPair "day" "week").bothWays]

def grammar : List Rule :=
  [(ofPair "may" "must").bothWays]

def rules : List Rule :=
  miscellany ++ questions ++ measures ++ materials ++ units ++ givenNames ++ heresy ++ animals ++
    ships ++ durations ++ grammar

end WordSwap.Catalogue
