import AccessWindows.Schedule.Normal

/-!
# Templates

A `Template` bundles grants with a name, a category and a time zone, so that a rule can speak of
business hours without repeating them. The category says what it is meant for; it has a name, which
stands for it in texts, and a label, which is shown to people. The zone is only a name here, one of
those that the zone database gives to its zones and links, and no offset is ever computed. Most names
have the form `Area/Place`; they are kept by area and matched letter by letter, capitals included.
-/

set_option autoImplicit false

namespace AccessWindows

/-! ## Categories -/

/-- What a template is meant for. -/
inductive Category where
  | work
  | duty
  | maintenance
  | emergency
  | always
  | custom
deriving DecidableEq, Repr

namespace Category

/-- The categories, in the order in which they are offered. -/
def all : List Category := [work, duty, maintenance, emergency, always, custom]

/-- The name that stands for the category in texts. -/
def name : Category → String
  | work => "work"
  | duty => "duty"
  | maintenance => "maintenance"
  | emergency => "emergency"
  | always => "always"
  | custom => "custom"

/-- What is shown to people. -/
def label : Category → String
  | work => "Work Time"
  | duty => "Duty Time"
  | maintenance => "Maintenance Time"
  | emergency => "Emergency Response"
  | always => "All Time"
  | custom => "Other"

instance : ToString Category := ⟨name⟩

/-- The category with exactly this name. -/
def ofName? (s : List Char) : Option Category := all.find? fun c => c.name.toList = s

/-- A character in lower case, as far as names can tell: they are written in the letters a to z, and
only the capitals A to Z and the Kelvin sign have one of these as lower case. -/
def lower (c : Char) : Char := if c = '\u212A' then 'k' else c.toLower

/-- Read a category: its name in any mixture of cases, with blanks around it. -/
def ofString (s : String) : Except Fault Category :=
  orFault (.noSuchCategory s) (ofName? ((Blank.trim s.toList).map lower))

end Category

end AccessWindows

/-! ## Time zones -/

namespace AccessWindows.Zone

/-- The places of each area. -/
def areas : List (String × List String) :=
  [("Africa",
      ["Abidjan", "Accra", "Addis_Ababa", "Algiers", "Asmara", "Asmera", "Bamako", "Bangui",
       "Banjul", "Bissau", "Blantyre", "Brazzaville", "Bujumbura", "Cairo", "Casablanca", "Ceuta",
       "Conakry", "Dakar", "Dar_es_Salaam", "Djibouti", "Douala", "El_Aaiun", "Freetown",
       "Gaborone", "Harare", "Johannesburg", "Juba", "Kampala", "Khartoum", "Kigali", "Kinshasa",
       "Lagos", "Libreville", "Lome", "Luanda", "Lubumbashi", "Lusaka", "Malabo", "Maputo",
       "Maseru", "Mbabane", "Mogadishu", "Monrovia", "Nairobi", "Ndjamena", "Niamey", "Nouakchott",
       "Ouagadougou", "Porto-Novo", "Sao_Tome", "Timbuktu", "Tripoli", "Tunis", "Windhoek"]),
    ("America",
      ["Adak", "Anchorage", "Anguilla", "Antigua", "Araguaina", "Argentina/Buenos_Aires",
       "Argentina/Catamarca", "Argentina/ComodRivadavia", "Argentina/Cordoba", "Argentina/Jujuy",
       "Argentina/La_Rioja", "Argentina/Mendoza", "Argentina/Rio_Gallegos", "Argentina/Salta",
       "Argentina/San_Juan", "Argentina/San_Luis", "Argentina/Tucuman", "Argentina/Ushuaia",
       "Aruba", "Asuncion", "Atikokan", "Atka", "Bahia", "Bahia_Banderas", "Barbados", "Belem",
       "Belize", "Blanc-Sablon", "Boa_Vista", "Bogota", "Boise", "Buenos_Aires", "Cambridge_Bay",
       "Campo_Grande", "Cancun", "Caracas", "Catamarca", "Cayenne", "Cayman", "Chicago",
       "Chihuahua", "Ciudad_Juarez", "Coral_Harbour", "Cordoba", "Costa_Rica", "Coyhaique",
       "Creston", "Cuiaba", "Curacao", "Danmarkshavn", "Dawson", "Dawson_Creek", "Denver",
       "Detroit", "Dominica", "Edmonton", "Eirunepe", "El_Salvador", "Ensenada", "Fort_Nelson",
       "Fort_Wayne", "Fortaleza", "Glace_Bay", "Godthab", "Goose_Bay", "Grand_Turk", "Grenada",
       "Guadeloupe", "Guatemala", "Guayaquil", "Guyana", "Halifax", "Havana", "Hermosillo",
       "Indiana/Indianapolis", "Indiana/Knox", "Indiana/Marengo", "Indiana/Petersburg",
       "Indiana/Tell_City", "Indiana/Vevay", "Indiana/Vincennes", "Indiana/Winamac",
       "Indianapolis", "Inuvik", "Iqaluit", "Jamaica", "Jujuy", "Juneau", "Kentucky/Louisville",
       "Kentucky/Monticello", "Knox_IN", "Kralendijk", "La_Paz", "Lima", "Los_Angeles",
       "Louisville", "Lower_Princes", "Maceio", "Managua", "Manaus", "Marigot", "Martinique",
       "Matamoros", "Mazatlan", "Mendoza", "Menominee", "Merida", "Metlakatla", "Mexico_City",
       "Miquelon", "Moncton", "Monterrey", "Montevideo", "Montreal", "Montserrat", "Nassau",
       "New_York", "Nipigon", "Nome", "Noronha", "North_Dakota/Beulah", "North_Dakota/Center",
       "North_Dakota/New_Salem", "Nuuk", "Ojinaga", "Panama", "Pangnirtung", "Paramaribo",
       "Phoenix", "Port-au-Prince", "Port_of_Spain", "Porto_Acre", "Porto_Velho", "Puerto_Rico",
       "Punta_Arenas", "Rainy_River", "Rankin_Inlet", "Recife", "Regina", "Resolute", "Rio_Branco",
       "Rosario", "Santa_Isabel", "Santarem", "Santiago", "Santo_Domingo", "Sao_Paulo",
       "Scoresbysund", "Shiprock", "Sitka", "St_Barthelemy", "St_Johns", "St_Kitts", "St_Lucia",
       "St_Thomas", "St_Vincent", "Swift_Current", "Tegucigalpa", "Thule", "Thunder_Bay",
       "Tijuana", "Toronto", "Tortola", "Vancouver", "Virgin", "Whitehorse", "Winnipeg", "Yakutat",
       "Yellowknife"]),
    ("Antarctica",
      ["Casey", "Davis", "DumontDUrville", "Macquarie", "Mawson", "McMurdo", "Palmer", "Rothera",
       "South_Pole", "Syowa", "Troll", "Vostok"]),
    ("Arctic",
      ["Longyearbyen"]),
    ("Asia",
      ["Aden", "Almaty", "Amman", "Anadyr", "Aqtau", "Aqtobe", "Ashgabat", "Ashkhabad", "Atyrau",
       "Baghdad", "Bahrain", "Baku", "Bangkok", "Barnaul", "Beirut", "Bishkek", "Brunei",
       "Calcutta", "Chita", "Choibalsan", "Chongqing", "Chungking", "Colombo", "Dacca", "Damascus",
       "Dhaka", "Dili", "Dubai", "Dushanbe", "Famagusta", "Gaza", "Harbin", "Hebron",
       "Ho_Chi_Minh", "Hong_Kong", "Hovd", "Irkutsk", "Istanbul", "Jakarta", "Jayapura",
       "Jerusalem", "Kabul", "Kamchatka", "Karachi", "Kashgar", "Kathmandu", "Katmandu",
       "Khandyga", "Kolkata", "Krasnoyarsk", "Kuala_Lumpur", "Kuching", "Kuwait", "Macao", "Macau",
       "Magadan", "Makassar", "Manila", "Muscat", "Nicosia", "Novokuznetsk", "Novosibirsk", "Omsk",
       "Oral", "Phnom_Penh", "Pontianak", "Pyongyang", "Qatar", "Qostanay", "Qyzylorda", "Rangoon",
       "Riyadh", "Saigon", "Sakhalin", "Samarkand", "Seoul", "Shanghai", "Singapore",
       "Srednekolymsk", "Taipei", "Tashkent", "Tbilisi", "Tehran", "Tel_Aviv", "Thimbu", "Thimphu",
       "Tokyo", "Tomsk", "Ujung_Pandang", "Ulaanbaatar", "Ulan_Bator", "Urumqi", "Ust-Nera",
       "Vientiane", "Vladivostok", "Yakutsk", "Yangon", "Yekaterinburg", "Yerevan"]),
    ("Atlantic",
      ["Azores", "Bermuda", "Canary", "Cape_Verde", "Faeroe", "Faroe", "Jan_Mayen", "Madeira",
       "Reykjavik", "South_Georgia", "St_Helena", "Stanley"]),
    ("Australia",
      ["ACT", "Adelaide", "Brisbane", "Broken_Hill", "Canberra", "Currie", "Darwin", "Eucla",
       "Hobart", "LHI", "Lindeman", "Lord_Howe", "Melbourne", "NSW", "North", "Perth",
       "Queensland", "South", "Sydney", "Tasmania", "Victoria", "West", "Yancowinna"]),
    ("Brazil",
      ["Acre", "DeNoronha", "East", "West"]),
    ("Canada",
      ["Atlantic", "Central", "Eastern", "Mountain", "Newfoundland", "Pacific", "Saskatchewan",
       "Yukon"]),
    ("Chile",
      ["Continental", "EasterIsland"]),
    ("Etc",
      ["GMT", "GMT+0", "GMT+1", "GMT+10", "GMT+11", "GMT+12", "GMT+2", "GMT+3", "GMT+4", "GMT+5",
       "GMT+6", "GMT+7", "GMT+8", "GMT+9", "GMT-0", "GMT-1", "GMT-10", "GMT-11", "GMT-12",
       "GMT-13", "GMT-14", "GMT-2", "GMT-3", "GMT-4", "GMT-5", "GMT-6", "GMT-7", "GMT-8", "GMT-9",
       "GMT0", "Greenwich", "UCT", "UTC", "Universal", "Zulu"]),
    ("Europe",
      ["Amsterdam", "Andorra", "Astrakhan", "Athens", "Belfast", "Belgrade", "Berlin",
       "Bratislava", "Brussels", "Bucharest", "Budapest", "Busingen", "Chisinau", "Copenhagen",
       "Dublin", "Gibraltar", "Guernsey", "Helsinki", "Isle_of_Man", "Istanbul", "Jersey",
       "Kaliningrad", "Kiev", "Kirov", "Kyiv", "Lisbon", "Ljubljana", "London", "Luxembourg",
       "Madrid", "Malta", "Mariehamn", "Minsk", "Monaco", "Moscow", "Nicosia", "Oslo", "Paris",
       "Podgorica", "Prague", "Riga", "Rome", "Samara", "San_Marino", "Sarajevo", "Saratov",
       "Simferopol", "Skopje", "Sofia", "Stockholm", "Tallinn", "Tirane", "Tiraspol", "Ulyanovsk",
       "Uzhgorod", "Vaduz", "Vatican", "Vienna", "Vilnius", "Volgograd", "Warsaw", "Zagreb",
       "Zaporozhye", "Zurich"]),
    ("Indian",
      ["Antananarivo", "Chagos", "Christmas", "Cocos", "Comoro", "Kerguelen", "Mahe", "Maldives",
       "Mauritius", "Mayotte", "Reunion"]),
    ("Mexico",
      ["BajaNorte", "BajaSur", "General"]),
    ("Pacific",
      ["Apia", "Auckland", "Bougainville", "Chatham", "Chuuk", "Easter", "Efate", "Enderbury",
       "Fakaofo", "Fiji", "Funafuti", "Galapagos", "Gambier", "Guadalcanal", "Guam", "Honolulu",
       "Johnston", "Kanton", "Kiritimati", "Kosrae", "Kwajalein", "Majuro", "Marquesas", "Midway",
       "Nauru", "Niue", "Norfolk", "Noumea", "Pago_Pago", "Palau", "Pitcairn", "Pohnpei", "Ponape",
       "Port_Moresby", "Rarotonga", "Saipan", "Samoa", "Tahiti", "Tarawa", "Tongatapu", "Truk",
       "Wake", "Wallis", "Yap"]),
    ("US",
      ["Alaska", "Aleutian", "Arizona", "Central", "East-Indiana", "Eastern", "Hawaii",
       "Indiana-Starke", "Michigan", "Mountain", "Pacific", "Samoa"])]

/-- The names without an area. -/
def plainNames : List String :=
  ["CET", "CST6CDT", "Cuba", "EET", "EST", "EST5EDT", "Egypt", "Eire", "GB", "GB-Eire", "GMT",
   "GMT+0", "GMT-0", "GMT0", "Greenwich", "HST", "Hongkong", "Iceland", "Iran", "Israel",
   "Jamaica", "Japan", "Kwajalein", "Libya", "MET", "MST", "MST7MDT", "NZ", "NZ-CHAT", "Navajo",
   "PRC", "PST8PDT", "Poland", "Portugal", "ROC", "ROK", "Singapore", "Turkey", "UCT", "UTC",
   "Universal", "W-SU", "WET", "Zulu"]

/-- All names: those without an area, and each place behind its area and a slash. -/
def names : List String :=
  plainNames ++ areas.flatMap fun area => area.2.map fun place => area.1 ++ "/" ++ place

/-- The zone used where none is named. -/
def standard : String := "Asia/Shanghai"

end AccessWindows.Zone

namespace AccessWindows

/-! ## Templates -/

/-- A named list of grants. -/
structure Template where
  name : String
  description : String
  category : Category
  grants : List Grant
  zone : String
deriving DecidableEq

namespace Template

/-- The name of the template's zone, if it stands in a table of zones. -/
def zoneIn (zones : List String) (t : Template) : Except Fault String :=
  if t.zone ∈ zones then .ok t.zone else .error (.noSuchZone t.zone)

/-- The name of the template's zone, if there is such a zone. -/
def checkedZone (t : Template) : Except Fault String := t.zoneIn Zone.names

/-- Check that the name is not blank, that there are grants, and that the zone stands in a table of
zones; the first check that fails is reported. -/
def validateIn (zones : List String) (t : Template) : Except Fault Unit :=
  if Blank.trim t.name.toList = [] then .error .blankName
  else if t.grants = [] then .error (.noRanges t.name)
  else do
    let _ ← t.zoneIn zones
    return ()

/-- Check a template with the zones that there are. -/
def validate (t : Template) : Except Fault Unit := t.validateIn Zone.names

/-- The template with its grants in normal form. -/
def normalized (t : Template) : Template := { t with grants := Grant.normalize t.grants }

end Template

end AccessWindows
