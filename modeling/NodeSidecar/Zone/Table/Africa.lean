/-
**Time zones of Africa.**

One record for each name, in the form that `NodeSidecar.Zone.Record` reads: the offsets the zone
has used, in seconds, then its changes as the seconds since the change before it with the letter
of the offset that begins, then the yearly rule it still follows; or `=` and the name of the zone
that it is another name of.  A line that begins with a space continues the record before it.
-/

set_option autoImplicit false

namespace NodeSidecar.Zone.Table

/-- The records of the zones of Africa. -/
def africa : String := "Africa/Abidjan -968,0 -1830383032b
Africa/Accra -52,0,1200,1800
 -1709337548b128131148c3289200b21082800c10539600b20996400c10539600b20996400c10539600b
 20996400c10539600b21082800c10539600b20996400c10539600b20996400c10539600b20996400c10539600b
 21082800c10539600b20996400c10539600b20996400c10539600b20996400c10539600b21082800c10539600b
 20996400c10539600b20996400c10539600b20996400c10539600b21082800c10539600b20996400c10539600b
 20996400c10539600b20996400c10539600b10455600c21166800b10369200c21166800b3277200d123377400b
 146802600d10539000b20997000d10539000b21083400d10539000b20997000d10539000b20997000d
 10539000b20997000d10539000b
Africa/Addis_Ababa 9288,9320,10800 -3155682888b2093471968c
Africa/Algiers 732,561,0,3600,7200
 -2486592732b630633771c166144161d9417600c15033600d17020800c13219200d18230400c12614400d
 18835200c11404800d21772800c12268800d8553600c575078400d5878800c8474400d129510000e16239600d
 15210000e14421600d33350400c293850000d227401200c253497600d13305600c176950800d27820800e
 15728400d34466400c15728400d16333200c15721200d
Africa/Asmara 9332,9320,10800 -2524530932b1462320012c
Africa/Asmera =Africa/Asmara
Africa/Bamako -1920,0,-3600 -1830382080b699146880c830394000b
Africa/Bangui 4460,3600 -1830388460b
Africa/Banjul -3996,-3600,0 -1159829604b278898804c
Africa/Bissau -3740,-3600,0 -1830380400b1988150400c
Africa/Blantyre 8400,8470,8460,7200 -1844302800b92620730c347241610d
Africa/Brazzaville 3668,3600 -1830387668b
Africa/Bujumbura 7048,7200 -2524528648b
Africa/Cairo 7509,7200,10800
 -2185409109b1255565109c6735600b16938000c13302000b17024400c18054000b13482000c18486000b
 13136400c18486000b14346000c17190000b363574800c12438000b18320400c13215600b18324000c
 13136400b18486000c13136400b18399600c13136400b18399600c13136400b18399600c13136400b18486000c
 13136400b18399600c13136400b18399600c13222800b18313200c13222800b18399600c13222800b18313200c
 13222800b18313200c13222800b18313200c13222800b18399600c13222800b18313200c13222800b18313200c
 13222800b18313200c13222800b18399600c13222800b18313200c13222800b18313200c13222800b18313200c
 13222800b18399600c13222800b18313200c13222800b25657200c5878800b24534000c7002000b18399600c
 13222800b18313200c13222800b18313200c13222800b18313200c13222800b18399600c13222800b18745200c
 12790800b18313200c13222800b18313200c13222800b18399600c13222800b18313200c13222800b18313200c
 13222800b18050400c13302000b18147600c13302000b18147600c13302000b18147600c13302000b18752400c
 13302000b18147600c13302000b18147600c13302000b18147600c13302000b18147600c13302000b18752400c
 13302000b18147600c13302000b18147600c12697200b18752400c11487600b19962000c10882800b20566800c
 10278000b21776400c8895600b2595600c1810800b114310800c3625200b3027600c4834800b270954000c
 @7200,10800,4,5,5,0,10,5,4,86400
Africa/Casablanca -1820,0,3600
 -1773012580b816650980c5871600b8470800c180831600b143946000c12092400b523717200c10321200b
 212374800c5958000b52534800c7945200b23590800c12956400b21258000c5526000b177210000c56674800b
 707360400c7945200b23590800c6994800b21949200c8463600b20566800c10278000b23598000c7084800b
 2678400c3542400b18144000c6048000b2937600c6739200b13305600c7776000b3024000c7344000b
 13305600c6652800b3024000c8467200b13305600c6048000b3024000c9676800b12700800c4838400b
 3628800c10281600b12700800c4233600b3024000c27820800b3024000c27216000b3628800c27216000b
 3024000c27216000b3628800c27216000b3024000c27820800b3024000c27216000b3628800c27216000b
 3024000c27820800b3024000c27216000b3628800c27216000b3024000c27216000b3628800c27216000b
 3024000c27820800b3024000c27216000b3628800c27216000b3024000c27216000b3628800c27216000b
 3628800c27216000b3024000c27216000b3628800c27216000b3024000c27820800b3024000c27216000b
 3628800c27216000b3024000c27216000b3628800c27216000b3628800c27216000b3024000c27216000b
 3628800c27216000b3024000c27820800b3024000c27216000b3628800c27216000b3024000c27216000b
 3628800c27216000b3628800c27216000b3024000c27216000b3628800c27216000b3024000c27820800b
 3024000c27216000b3628800c27216000b3024000c27216000b3628800c27216000b3628800c27216000b
 3024000c27216000b3628800c27216000b3024000c27820800b3024000c27216000b3628800c27216000b
 3024000c27216000b3628800c27216000b3628800c27216000b3024000c27216000b3628800c27216000b
 3024000c27820800b3024000c27216000b3628800c27216000b3024000c27216000b3628800c27216000b
 3628800c27216000b3024000c27216000b3628800c27216000b3024000c27820800b3024000c27216000b
 3628800c27216000b3024000c27216000b3628800c27216000b3024000c27820800b3024000c27216000b
 3628800c27216000b3024000c27820800b3024000c27216000b3628800c
Africa/Ceuta -1276,0,3600,7200
 -2177452800b547340400c13302000b174358800c14778000b48380400c14518800b16326000c15123600b
 16934400c15120000b1219838400c10321200b212374800c5958000b52534800c7945200b23590800c
 12956400b21258000c5526000b177210000c64285200d15724800c15724800d15724800c15724800d15724800c
 15724800d15724800c15724800d16329600c15724800d15724800c15724800d15724800c15724800d15724800c
 15724800d15724800c15724800d15724800c @3600,7200,3,5,0,7200,10,5,0,10800
Africa/Conakry -3292,0,-3600 -1830380708b699145508c815619600b
Africa/Dakar -4184,-3600,0 -1830379816b928281016c
Africa/Dar_es_Salaam 9428,10800,9900 -1230777428b536456228c410314500b
Africa/Djibouti 10356,10800 -1846291956b
Africa/Douala 2328,3600 -1830386328b
Africa/El_Aaiun -3168,-3600,0,3600
 -1136070432b1334362032c1465200d7945200c23590800d12956400c21258000d5526000c941245200d
 7945200c23590800d6994800c21949200d8463600c20566800d10278000c23598000d7084800c2678400d
 3542400c18144000d6048000c2937600d6739200c13305600d7776000c3024000d7344000c13305600d
 6652800c3024000d8467200c13305600d6048000c3024000d9676800c12700800d4838400c3628800d
 10281600c12700800d4233600c3024000d27820800c3024000d27216000c3628800d27216000c3024000d
 27216000c3628800d27216000c3024000d27820800c3024000d27216000c3628800d27216000c3024000d
 27820800c3024000d27216000c3628800d27216000c3024000d27216000c3628800d27216000c3024000d
 27820800c3024000d27216000c3628800d27216000c3024000d27216000c3628800d27216000c3628800d
 27216000c3024000d27216000c3628800d27216000c3024000d27820800c3024000d27216000c3628800d
 27216000c3024000d27216000c3628800d27216000c3628800d27216000c3024000d27216000c3628800d
 27216000c3024000d27820800c3024000d27216000c3628800d27216000c3024000d27216000c3628800d
 27216000c3628800d27216000c3024000d27216000c3628800d27216000c3024000d27820800c3024000d
 27216000c3628800d27216000c3024000d27216000c3628800d27216000c3628800d27216000c3024000d
 27216000c3628800d27216000c3024000d27820800c3024000d27216000c3628800d27216000c3024000d
 27216000c3628800d27216000c3628800d27216000c3024000d27216000c3628800d27216000c3024000d
 27820800c3024000d27216000c3628800d27216000c3024000d27216000c3628800d27216000c3628800d
 27216000c3024000d27216000c3628800d27216000c3024000d27820800c3024000d27216000c3628800d
 27216000c3024000d27216000c3628800d27216000c3024000d27820800c3024000d27216000c3628800d
 27216000c3024000d27820800c3024000d27216000c3628800d
Africa/Freetown -3180,-3600,-2400,0
 -1783120020b612835620c10453200b13220400c18315600b13220400c18315600b13220400c18402000b
 13220400c18315600b13220400c18315600b13220400c23586000b7950000c344400b71194800d
Africa/Gaborone 6220,5400,7200,10800 -2682294220b573005620c1279762200d15721200c
Africa/Harare 7452,7200 -2109290652b
Africa/Johannesburg 6720,5400,7200,10800
 -2458173120b348884520c1248312600d15721200c15728400d15721200c
Africa/Juba 7588,7200,10800
 -1230775588b1241136388c14425200b17024400c14511600b17110800c14511600b16938000c14598000b
 16851600c14684400b16765200c14770800b16678800c14943600b16506000c15030000b17024400c14511600b
 16938000c14598000b16851600c14770800b16678800c14857200b16592400c14943600b16506000c15030000b
 17024400c14598000b16851600c14684400b449758800c664196400b
Africa/Kampala 7780,10800,9000,9900 -1309745380b47430580c567995400d284082300b
Africa/Khartoum 7808,7200,10800
 -1230775808b1241136608c14425200b17024400c14511600b17110800c14511600b16938000c14598000b
 16851600c14684400b16765200c14770800b16678800c14943600b16506000c15030000b17024400c14511600b
 16938000c14598000b16851600c14770800b16678800c14857200b16592400c14943600b16506000c15030000b
 17024400c14598000b16851600c14684400b449758800c561553200b
Africa/Kigali 7216,7200 -1091498416b
Africa/Kinshasa 3672,3600 -2276643672b
Africa/Lagos 815,0,1800,3600 -2035584815b94695215a173663185c178760615d
Africa/Libreville 2268,3600 -1830386268b
Africa/Lome 292,0 -2429827492b
Africa/Luanda 3176,3124,3600 -2461452776b631065176c
Africa/Lubumbashi 6592,3600,7200 -2276646592b708655792c
Africa/Lusaka 6788,7200 -2109289988b
Africa/Malabo 2108,0,3600 -1830386108b1639528508c
Africa/Maputo 7818,7200 -1924999818b
Africa/Maseru 6600,7200,10800 -2109289800b1279763400c15721200b
Africa/Mbabane 7464,7200 -2109290664b
Africa/Mogadishu 10888,10800,9000 -2403572488b1172793688c820542600b
Africa/Monrovia -2588,-2670,0 -1604359012b1667952082c
Africa/Nairobi 8836,9000,10800,9900 -1946168836b636422236c47777400b220581000d176082300c
Africa/Ndjamena 3612,3600,7200 -1830387612b2139091212c12610800b
Africa/Niamey 508,-3600,0,3600 -1830384508b699152908c815612400d
Africa/Nouakchott -3828,0,-3600 -1830380172b699144972c844304400b
Africa/Ouagadougou -364,0 -1830383636b
Africa/Porto-Novo 628,0,3600 -1830384628b699149428c
Africa/Sao_Tome 1616,-2205,0,3600 -2713912016b883528016c3345152400d31536000c
Africa/Timbuktu =Africa/Bamako
Africa/Tripoli 3164,3600,7200
 -1577926364b1003024364c6814800b55911600c7246800b55040400c8031600b94698000c725842800b
 7779600c15807600b15728400c15807600b15814800c15807600b16160400c15375600b15987600c15721200b
 15555600c15807600b15814800c15807600b15728400c15807600b18579600c202258800b16074000c
 492397200b12009600c
Africa/Tunis 2444,561,3600,7200
 -2797202444b941243483c886716561d18748800c8553600d50803200c13309200d20570400c12700800d
 1638000c694800d13993200c15728400d16232400c15217200d14418000c997837200d12700800c18921600d
 13219200c305078400d10022400c15724800d15724800c18921600d13132800c460252800d13136400c
 15296400d18748800c12700800d18748800c13305600d18144000c
Africa/Windhoek 4104,5400,7200,10800,3600
 -2458170504b348881904c1248312600d15721200c1609455600e14439600c18140400e13309200c18745200e
 12704400c18745200e13309200c18140400e13309200c18140400e13309200c18140400e13309200c18140400e
 13309200c18745200e12704400c18745200e13309200c18140400e13309200c18140400e13309200c18140400e
 13309200c18140400e13309200c18745200e13309200c18140400e13309200c18140400e13309200c18140400e
 13309200c18140400e13309200c18745200e12704400c18745200e13309200c18140400e13309200c18140400e
 13309200c18140400e13309200c"

end NodeSidecar.Zone.Table
