/-!
# The schema of citations

Proposals cite literature in fenced blocks in a common form: what kind of work it is, an identifier of
its own within the proposal, and the permanent identifier of the work.

## Main definitions

* `citationSchema`: the text of the schema
-/

namespace ProposalCheck

/-- The lines of the schema of citations. -/
def citationLines : List String :=
  [ "\x7b",
    "  \"$schema\": \"http://json-schema.org/draft-07/schema#\",",
    "  \"$id\": \"https://proplint.readthedocs.io/schemas/citation.json\",",
    "  \"title\": \"Citation\",",
    "  \"description\": \"A single reference in CSL-JSON form.\",",
    "  \"type\": \"object\",",
    "  \"required\": [\"type\", \"id\", \"DOI\"],",
    "  \"properties\": \x7b",
    "    \"type\": \x7b",
    "      \"type\": \"string\",",
    "      \"enum\": [",
    "        \"article\",",
    "        \"article-journal\",",
    "        \"article-magazine\",",
    "        \"book\",",
    "        \"chapter\",",
    "        \"dataset\",",
    "        \"paper-conference\",",
    "        \"report\",",
    "        \"software\",",
    "        \"thesis\",",
    "        \"webpage\"",
    "      ]",
    "    \x7d,",
    "    \"id\": \x7b\"type\": \"string\", \"minLength\": 1\x7d,",
    "    \"DOI\": \x7b\"type\": \"string\", \"pattern\": \"^10\\\\.[0-9]\x7b4,9\x7d/\\\\S+$\"\x7d,",
    "    \"URL\": \x7b\"type\": \"string\", \"format\": \"uri\"\x7d,",
    "    \"title\": \x7b\"type\": \"string\"\x7d,",
    "    \"author\": \x7b",
    "      \"type\": \"array\",",
    "      \"items\": \x7b\"$ref\": \"#/definitions/name\"\x7d",
    "    \x7d,",
    "    \"issued\": \x7b\"$ref\": \"#/definitions/date\"\x7d,",
    "    \"container-title\": \x7b\"type\": \"string\"\x7d",
    "  \x7d,",
    "  \"definitions\": \x7b",
    "    \"name\": \x7b",
    "      \"type\": \"object\",",
    "      \"properties\": \x7b",
    "        \"family\": \x7b\"type\": \"string\"\x7d,",
    "        \"given\": \x7b\"type\": \"string\"\x7d,",
    "        \"literal\": \x7b\"type\": \"string\"\x7d",
    "      \x7d,",
    "      \"anyOf\": [",
    "        \x7b\"required\": [\"family\"]\x7d,",
    "        \x7b\"required\": [\"literal\"]\x7d",
    "      ]",
    "    \x7d,",
    "    \"date\": \x7b",
    "      \"type\": \"object\",",
    "      \"required\": [\"date-parts\"],",
    "      \"properties\": \x7b",
    "        \"date-parts\": \x7b",
    "          \"type\": \"array\",",
    "          \"minItems\": 1,",
    "          \"items\": \x7b",
    "            \"type\": \"array\",",
    "            \"minItems\": 1,",
    "            \"maxItems\": 3,",
    "            \"items\": \x7b\"type\": \"integer\"\x7d",
    "          \x7d",
    "        \x7d",
    "      \x7d",
    "    \x7d",
    "  \x7d",
    "\x7d" ]

/-- The text of the schema of citations. -/
def citationSchema : String := "\n".intercalate citationLines ++ "\n"

end ProposalCheck
