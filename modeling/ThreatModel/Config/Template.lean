namespace ThreatModel.Config

def templateLines : List String :=
  ["# threatspec configuration",
   "# =======================",
   "#",
   "# Threat model tags live in source comments:",
   "#",
   "#   // @alias component @web:@app to Web Application",
   "#   // @mitigates @web:@app against XSS with output encoding (#42)",
   "#   // @connects User:Browser to @web:@app as HTTPS",
   "",
   "# ============================================================================",
   "# SETTINGS",
   "# ============================================================================",
   "#",
   "# Available options:",
   "#   project          - Project name recorded in generated documents (default: \"default\")",
   "#   output           - Output file (default: PROJECT.threatspec.json)",
   "#   scan_exclude     - Extra glob patterns skipped when scanning",
   "#   comment_markers  - Comment markers stripped before tags (default: // /* * # -- \"\"\" ''')",
   "#   strict           - Abort on the first tag that cannot be applied (default: false)",
   "#   libraries        - Threat library documents preloaded before parsing",
   "",
   "[settings]",
   "project = \"default\"",
   "scan_exclude = [\"target/**\", \"node_modules/**\", \"vendor/**\"]",
   "comment_markers = []",
   "strict = false",
   "libraries = []",
   "",
   "# ============================================================================",
   "# VALIDATE",
   "# ============================================================================",
   "#",
   "#   relax   - 0 = strict, 1 = ignore additionalProperties, 2 = also ignore required",
   "#   schema  - JSON schema replacing the built-in one",
   "",
   "[validate]",
   "relax = 0"]

def template : String := String.join (templateLines.map (· ++ "\n"))

end ThreatModel.Config
