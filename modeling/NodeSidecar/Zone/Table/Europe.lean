/-
**Time zones of Europe.**

One record for each name, in the form that `NodeSidecar.Zone.Record` reads: the offsets the zone
has used, in seconds, then its changes as the seconds since the change before it with the letter
of the offset that begins, then the yearly rule it still follows; or `=` and the name of the zone
that it is another name of.  A line that begins with a space continues the record before it.
-/

set_option autoImplicit false

namespace NodeSidecar.Zone.Table

/-- The records of the zones of Europe. -/
def europe : String := "Europe/Amsterdam 1172,4772,4800,1200,7200,3600
 -1693700372b13215600a17031600b13305600a16934400b15724800a16329600b15120000a16329600b
 15120000a16329600b15120000a15638400b16934400a20390400b11059200a15120000b16329600a20995200b
 10454400a19267200b12182400a19353600b12096000a19526400b12528000a19008000b12441600a19094400b
 12355200a19180800b12268800a19958400b11491200a19440000b12614400a18921600b12528000a19008000b
 12441600a19180800b12268800a19872000b3445200c8132372d19353600c12096000d19440000c12614400d
 19087200e77764800f12700800e16329600f15724800e15724800f15724800e14428800f995500800e
 15120000f16329600e15724800f15724800e15724800f16329600e15120000f15724800e15724800f15724800e
 15724800f15724800e15724800f15724800e16329600f15724800e15724800f15724800e15724800f15724800e
 15724800f15724800e15724800f15724800e15724800f15724800e16329600f15724800e15724800f15724800e
 15724800f15724800e15724800f15724800e15724800f15724800e15724800f
 @3600,7200,3,5,0,7200,10,5,0,10800
Europe/Andorra 364,0,3600,7200
 -2177453164b1443571564c1214960400d15724800c15724800d15724800c15724800d15724800c15724800d
 15724800c15724800d15724800c15724800d16329600c15724800d15724800c15724800d15724800c15724800d
 15724800c15724800d15724800c15724800d15724800c @3600,7200,3,5,0,7200,10,5,0,10800
Europe/Astrakhan 11532,10800,14400,18000
 -1441249932b193709532c1602457200d15807600c15728400d15807600c15728400d15807600c15814800d
 15732000c15724800d15724800c15724800d15724800c15724800d15724800c15724800d15724800c31453200b
 15724800c16329600b15724800c47174400b15724800c15724800b15724800c15724800b15724800c15724800b
 16329600c18144000b13305600c18144000b13305600c18144000b13305600c18748800b12700800c18748800b
 12700800c18748800b13305600c18144000b13305600c18144000b13305600c18748800b12700800c18748800b
 12700800c18748800b12700800c18748800b13305600c18144000b13305600c18144000b13305600c18748800b
 12700800c113094000b44758800c
Europe/Athens 5692,7200,10800,3600
 -1686101632b503105632c4834800b271299600c1983600b47620800d12780000b16239600d15814800b
 260060400c10710000b708138000c19699200b11844000c15724800b15120000c15206400b16243200c
 15123600b16351200c15609600b15980400c15548400b15739200c15724800b15724800c15724800b15724800c
 15724800b15724800c16329600b15724800c15724800b15724800c15724800b15724800c15724800b15724800c
 15724800b15724800c15724800b15724800c16329600b15724800c15724800b15724800c15724800b15724800c
 15724800b15724800c15724800b15724800c15724800b @7200,10800,3,5,0,10800,10,5,0,14400
Europe/Belfast =Europe/London
Europe/Belgrade 4920,3600,7200
 -2713915320b1808090520c48567600b12700800c16329600b15724800c15724800b18835200c11318400b
 1184198400c15724800b15724800c16329600b15724800c15724800b15724800c15724800b15724800c
 15724800b15724800c15724800b15724800c15724800b15724800c16329600b15724800c15724800b15724800c
 15724800b15724800c15724800b15724800c15724800b15724800c15724800b
 @3600,7200,3,5,0,7200,10,5,0,10800
Europe/Berlin 3208,3600,7200,10800
 -2422054408b728348008c13222800b17028000c13305600b18144000c13305600b679795200c81648000b
 12700800c16329600b15724800c15724800b15724800c4489200d10627200c4755600b12700800c15206400b
 15642000c3020400d4230000c8470800b16934400c14515200b16329600c15120000b962841600c15120000b
 15724800c15724800b15724800c15724800b15724800c15724800b15724800c16329600b15724800c15724800b
 15724800c15724800b15724800c15724800b15724800c15724800b15724800c15724800b15724800c16329600b
 15724800c15724800b15724800c15724800b15724800c15724800b15724800c15724800b15724800c15724800b
 @3600,7200,3,5,0,7200,10,5,0,10800
Europe/Bratislava =Europe/Prague
Europe/Brussels 1050,0,3600,7200
 -2450995200b710640000c46652400d13219200c17028000d13305600c18144000d13305600c4874400b
 9547200c18748800b11491200c21772800b12268800c19440000b13046400c16934400b16934400c14515200b
 15120000c16329600b15724800c15724800b16934400c14515200b16329600c15120000b16934400c15130800b
 16934400c14515200b16329600c15120000b16934400c14515200b15724800c15724800b15120000c16934400b
 15724800c15724800b15120000c16329600b16934400c14515200b15724800c15724800b15120000c16329600b
 16934400c18748800b8467200c7344000d77410800c12700800d16329600c15724800d14428800c17020800d
 14428800c21168000d12182400c962150400d15120000c16329600d15724800c15724800d15724800c
 16329600d15120000c15724800d15724800c15724800d15724800c15724800d15724800c15724800d16329600c
 15724800d15724800c15724800d15724800c15724800d15724800c15724800d15724800c15724800d15724800c
 15724800d16329600c15724800d15724800c15724800d15724800c15724800d15724800c15724800d15724800c
 15724800d15724800c @3600,7200,3,5,0,7200,10,5,0,10800
Europe/Bucharest 6264,7200,10800
 -1213148664b26091864c11577600b15724800c15724800b16329600c15724800b15724800c15724800b
 15724800c15724800b15724800c15724800b15724800c15724800b15724800c15724800b1251331200c
 10882800b16329600c15123600b15732000c15724800b15724800c15724800b15724800c15724800b15724800c
 16329600b15724800c15724800b15724800c15724800b15724800c15724800b15724800c15724800b15724800c
 15724800b15724800c16329600b15717600c15724800b15724800c15724800b15724800c15724800b15724800c
 15721200b15728400c15721200b16333200c18140400b @7200,10800,3,5,0,10800,10,5,0,14400
Europe/Budapest 4580,3600,7200
 -2498260580b804554180c13222800b17028000c13305600b18144000c13305600b18230400c13219200b
 17539200c14515200b648421200c49518000b12700800c16329600b15724800c15724800b18306000c
 15814800b12967200c16412400b15642000c15724800b15724800c15724800b16329600c15120000b
 146354400c11487600b19969200c11491200b21168000c10281600b21168000c10281600b710632800c
 15120000b15724800c15724800b15724800c15724800b15724800c15724800b15732000c16329600b15724800c
 15724800b15724800c15724800b15724800c15724800b15724800c15724800b15724800c15724800b15724800c
 16329600b15724800c15724800b15724800c15724800b15724800c15724800b15724800c15724800b15724800c
 15724800b @3600,7200,3,5,0,7200,10,5,0,10800
Europe/Busingen =Europe/Zurich
Europe/Chisinau 6920,6900,6264,7200,10800,3600,14400
 -2840147720b1203033620c423965436d26091864e11577600d15724800e15724800d16329600e15724800d
 15724800e15724800d15724800e15724800d15724800e15724800d15724800e15724800d15724800e15724800d
 27561600e29026800d40881600f12700800d16329600f15724800d12344400e1155078000g15807600e
 15728400g15807600e15728400g15807600e15814800g15732000e15724800g15724800e15724800g15724800e
 15724800g15724800e15724800g15724800e15724800g15724800e15724800g3625200e12708000d15724800e
 15724800d15717600e15721200d15728400e15721200d15728400e15721200d15728400e15721200d16333200e
 18140400d13316400e18144000d13305600e18144000d13305600e18748800d12700800e18748800d12700800e
 18748800d13305600e18144000d13305600e18144000d13305600e18748800d12700800e18748800d12700800e
 18748800d12700800e18748800d13305600e18144000d13305600e18144000d13305600e18748800d12700800e
 18748800d12700800e18748800d13305600e18144000d13305600e18144000d13305600e18144000d13305600e
 18748800d12700800e18748800d12700800e18748800d13305600e18144000d13305600e18144000d13305600e
 18748800d @7200,10800,3,5,0,10800,10,5,0,14400
Europe/Copenhagen 3020,3600,7200
 -2398294220b705797420c12006000b745380000c77853600b12700800c16329600b15724800c15724800b
 15724800c11664000b22377600c10627200b21168000c8467200b23587200c7862400b999129600c15120000b
 15724800c15724800b15724800c15724800b15724800c15724800b15724800c16329600b15724800c15724800b
 15724800c15724800b15724800c15724800b15724800c15724800b15724800c15724800b15724800c16329600b
 15724800c15724800b15724800c15724800b15724800c15724800b15724800c15724800b15724800c15724800b
 @3600,7200,3,5,0,7200,10,5,0,10800
Europe/Dublin -1521,2079,0,3600
 -1691962479b11491200c16328079d13996800c16243200d16416000c15638400d15811200c15638400d
 18230400c13824000d15811200c15033600d16934400c16934400d12700800c18144000d13910400c18144000d
 14515200c16934400d14515200c16329600d15120000c17539200d14515200c16934400d14515200c16329600d
 15120000c16934400d14515200c16934400d14515200c16329600d15724800c16934400d14515200c16329600d
 15120000c16934400d14515200c16934400d14515200c16329600d15120000c16934400d18748800c8467200d
 208656000c13910400d19958400c14515200d16934400c13305600d18144000c14515200d16329600c
 15120000d16329600c15724800d16329600c15120000d14515200c16329600d15120000c16934400d14515200c
 17539200d14515200c16329600d15120000c16934400d14515200c16934400d14515200c16329600d15120000c
 15120000d18748800c12700800d18748800c13305600d18144000c12700800d18748800c12700800d18748800c
 12700800d18748800c12700800d19353600c9676800d116726400c12096000d19353600c12096000d19353600c
 12096000d19353600c12096000d19353600c12700800d18748800c12700800d18748800c12700800d19353600c
 12096000d19353600c12096000d19353600c13302000d18144000c13305600d18144000c13305600d18144000c
 13305600d18748800c13305600d18144000c13305600d18144000c13305600d18144000c13305600d18144000c
 13305600d18748800c12700800d18748800c13305600d18144000c13305600d18144000c13305600d18144000c
 13305600d18144000c13305600d18144000c @0,3600,3,5,0,3600,10,5,0,7200
Europe/Gibraltar -1284,0,3600,7200
 -2821649916b1129685916c11491200b16329600c13996800b16243200c16416000b15638400c15811200b
 15638400c18230400b13824000c15811200b15033600c16934400b16934400c12700800b18144000c13910400b
 18144000c14515200b16934400c14515200b16329600c15120000b17539200c14515200b16934400c14515200b
 16329600c15120000b16934400c14515200b16934400c14515200b16329600c15724800b16934400c14515200b
 16329600c15120000b16934400c14515200b16934400c14515200b16329600c15120000b16934400c18748800b
 8467200c37494000d8467200c20563200d10886400c20563200d11491200c19958400d14515200c17020800d
 8985600c7261200b16329600c15120000b13910400c2415600d10281600c7261200b11491200c19958400b
 13305600c18144000b14515200c16329600b15120000c16329600b15724800c16329600b15120000c14515200b
 16329600c15120000b16934400c14515200b17539200c14515200b16329600c787446000d15724800c
 15724800d15724800c15724800d16329600c15724800d15724800c15724800d15724800c15724800d15724800c
 15724800d15724800c15724800d15724800c15724800d16329600c15724800d15724800c15724800d15724800c
 15724800d15724800c15724800d15724800c15724800d15724800c @3600,7200,3,5,0,7200,10,5,0,10800
Europe/Guernsey -609,0,3600,7200
 -1784245791b92281791c11491200b16329600c13996800b16243200c16416000b15638400c15811200b
 15638400c18230400b13824000c15811200b15033600c16934400b16934400c12700800b18144000c13910400b
 18144000c14515200b16934400c14515200b16329600c15120000b17539200c14515200b16934400c14515200b
 16329600c15120000b16934400c14515200b16934400c14515200b16329600c15724800b16934400c14515200b
 16329600c15120000b16934400c14515200b16934400c14515200b16329600c15120000b16934400c18748800b
 8467200c11048400d73706400c12700800d16329600c15724800d15724800c15724800d8985600c7261200b
 16329600c15120000b13910400c2415600d10281600c7261200b11491200c19958400b13305600c18144000b
 14515200c16329600b15120000c16329600b15724800c16329600b15120000c14515200b16329600c15120000b
 16934400c14515200b17539200c14515200b16329600c15120000b16934400c14515200b16934400c14515200b
 16329600c15120000b15120000c18748800b12700800c18748800b13305600c18144000b12700800c18748800b
 12700800c18748800b12700800c18748800b12700800c19353600b9676800c116726400b12096000c19353600b
 12096000c19353600b12096000c19353600b12096000c19353600b12700800c18748800b12700800c18748800b
 12700800c19353600b12096000c19353600b12096000c19353600b13302000c18144000b13305600c18144000b
 13305600c18144000b13305600c18748800b13305600c18144000b13305600c18144000b13305600c18144000b
 13305600c18144000b13305600c18748800b12700800c18748800b13305600c18144000b13305600c18144000b
 13305600c18144000b13305600c18144000b13305600c18144000b @0,3600,3,5,0,3600,10,5,0,7200
Europe/Helsinki 5989,7200,10800
 -1535938789b660267589c15897600b1214445600c15724800b15724800c15724800b15728400c15724800b
 15724800c16329600b15724800c15724800b15724800c15724800b15724800c15724800b15724800c15724800b
 15724800c15724800b15724800c16329600b15724800c15724800b15724800c15724800b15724800c15724800b
 15724800c15724800b15724800c15724800b @7200,10800,3,5,0,10800,10,5,0,14400
Europe/Isle_of_Man -1075,0,3600,7200
 -2737842125b1045878125c11491200b16329600c13996800b16243200c16416000b15638400c15811200b
 15638400c18230400b13824000c15811200b15033600c16934400b16934400c12700800b18144000c13910400b
 18144000c14515200b16934400c14515200b16329600c15120000b17539200c14515200b16934400c14515200b
 16329600c15120000b16934400c14515200b16934400c14515200b16329600c15724800b16934400c14515200b
 16329600c15120000b16934400c14515200b16934400c14515200b16329600c15120000b16934400c18748800b
 8467200c37494000d8467200c20563200d10886400c20563200d11491200c19958400d14515200c17020800d
 8985600c7261200b16329600c15120000b13910400c2415600d10281600c7261200b11491200c19958400b
 13305600c18144000b14515200c16329600b15120000c16329600b15724800c16329600b15120000c14515200b
 16329600c15120000b16934400c14515200b17539200c14515200b16329600c15120000b16934400c14515200b
 16934400c14515200b16329600c15120000b15120000c18748800b12700800c18748800b13305600c18144000b
 12700800c18748800b12700800c18748800b12700800c18748800b12700800c19353600b9676800c116726400b
 12096000c19353600b12096000c19353600b12096000c19353600b12096000c19353600b12700800c18748800b
 12700800c18748800b12700800c19353600b12096000c19353600b12096000c19353600b13302000c18144000b
 13305600c18144000b13305600c18144000b13305600c18748800b13305600c18144000b13305600c18144000b
 13305600c18144000b13305600c18144000b13305600c18748800b12700800c18748800b13305600c18144000b
 13305600c18144000b13305600c18144000b13305600c18144000b13305600c18144000b
 @0,3600,3,5,0,3600,10,5,0,7200
Europe/Istanbul 6952,7016,7200,10800,14400
 -2840147752b970271936c176169416d13215600c110077200d18226800c13827600d15807600c15037200d
 16930800c50374800d12178800c18320400d13215600c465440400d8377200c4842000d25398000c16592400d
 111106800c20394000d10537200c17370000d14511600c16938000d14511600c16333200d15116400c
 16938000d15116400c16938000d14511600c339901200d40777200c17110800d12006000c273636000d
 13305600c12704400d18745200c12013200d19436400c12099600d19350000c13309200d16930800c14518800d
 168130800e5439600d34218000c14688000d13910400c15811200d15724800c15724800d15724800c15724800d
 15724800c15724800d15724800c15724800d16329600c15724800d15724800c15724800d15724800c15724800d
 15724800c15120000d16329600c15724800d15724800c16329600d18144000c13305600d18144000c13305600d
 18144000c13305600d18748800c12700800d18748800c12700800d18748800c13305600d18144000c13305600d
 18144000c13305600d18748800c12700800d18748800c12700800d18748800c12708000d18748800c13305600d
 18144000c13305600d18144000c13305600d18748800c12787200d18662400c12700800d18748800c13305600d
 18144000c13392000d18057600c13305600d19353600c12096000d
Europe/Jersey -506,0,3600,7200
 -2258092800b566128800c11491200b16329600c13996800b16243200c16416000b15638400c15811200b
 15638400c18230400b13824000c15811200b15033600c16934400b16934400c12700800b18144000c13910400b
 18144000c14515200b16934400c14515200b16329600c15120000b17539200c14515200b16934400c14515200b
 16329600c15120000b16934400c14515200b16934400c14515200b16329600c15724800b16934400c14515200b
 16329600c15120000b16934400c14515200b16934400c14515200b16329600c15120000b16934400c18748800b
 8467200c11048400d73706400c12700800d16329600c15724800d15724800c15724800d8985600c7261200b
 16329600c15120000b13910400c2415600d10281600c7261200b11491200c19958400b13305600c18144000b
 14515200c16329600b15120000c16329600b15724800c16329600b15120000c14515200b16329600c15120000b
 16934400c14515200b17539200c14515200b16329600c15120000b16934400c14515200b16934400c14515200b
 16329600c15120000b15120000c18748800b12700800c18748800b13305600c18144000b12700800c18748800b
 12700800c18748800b12700800c18748800b12700800c19353600b9676800c116726400b12096000c19353600b
 12096000c19353600b12096000c19353600b12096000c19353600b12700800c18748800b12700800c18748800b
 12700800c19353600b12096000c19353600b12096000c19353600b13302000c18144000b13305600c18144000b
 13305600c18144000b13305600c18748800b13305600c18144000b13305600c18144000b13305600c18144000b
 13305600c18144000b13305600c18748800b12700800c18748800b13305600c18144000b13305600c18144000b
 13305600c18144000b13305600c18144000b13305600c18144000b @0,3600,3,5,0,3600,10,5,0,7200
Europe/Kaliningrad 4920,3600,7200,10800,14400
 -2422056120b728349720c13222800b17028000c13305600b18144000c13305600b679795200c81648000b
 12700800c16329600b15724800c15724800b15724800c2322000d16066800c13568400d1104015600e
 15807600d15728400e15807600d15728400e15807600d15814800e15732000d15724800e15724800d15724800e
 15724800d15724800e15724800d15724800e15724800d31453200c15724800d16329600c15724800d15724800c
 15724800d15724800c15724800d15724800c15724800d15724800c15724800d15724800c16329600d18144000c
 13305600d18144000c13305600d18144000c13305600d18748800c12700800d18748800c12700800d18748800c
 13305600d18144000c13305600d18144000c13305600d18748800c12700800d18748800c12700800d18748800c
 12700800d18748800c13305600d18144000c13305600d18144000c13305600d18748800c12700800d 113094000c
Europe/Kiev =Europe/Kyiv
Europe/Kirov 11928,10800,14400,18000
 -1593820800b346280400c1602457200d15807600c15728400d15807600c15728400d15807600c15814800d
 15732000c15724800d15724800c15724800d15724800c15724800d15724800c15724800d15724800c31453200b
 15724800c16329600b15724800c47174400b15724800c15724800b15724800c15724800b15724800c15724800b
 16329600c18144000b13305600c18144000b13305600c18144000b13305600c18748800b12700800c18748800b
 12700800c18748800b13305600c18144000b13305600c18144000b13305600c18748800b12700800c18748800b
 12700800c18748800b12700800c18748800b13305600c18144000b13305600c18144000b13305600c18748800b
 12700800c113094000b
Europe/Kyiv 7324,7200,10800,3600,14400
 -1441159324b193622524c355014000b35265600d12700800b16329600d2844000c1180303200e15807600c
 15728400e15807600c15728400e15807600c15814800e15732000c15724800e15724800c15724800e15724800c
 15724800e15724800c15724800e15724800c15724800e15724800c15724800e8463600c39319200b15724800c
 15724800b15724800c15724800b15724800c15724800b15724800c15724800b16329600c
 @7200,10800,3,5,0,10800,10,5,0,14400
Europe/Lisbon -2205,0,3600,7200
 -1830384000b140828400c11754000b10368000c19695600b11840400c19695600b11840400c19695600b
 11926800c19695600b11840400c19695600b79056000c14774400b48384000c14515200b16329600c15120000b
 16934400c15120000b16934400c14515200b48384000c14515200b15724800c15724800b47779200c15724800b
 15120000c16329600b16934400c14515200b15724800c15724800b15120000c16329600b16934400c18748800b
 8467200c19526400b15552000c15811200b13824000c3625200d9676800c6051600b12096000c3020400d
 11491200c5446800b11491200c3625200d10886400c5446800b11491200c3625200d10886400c5446800b
 13910400c15724800b15735600c15724800b15724800c15724800b15724800c15724800b15724800c15724800b
 15724800c16329600b15724800c15724800b15724800c15724800b15724800c15724800b15724800c15724800b
 15724800c16329600b15724800c15724800b15724800c15724800b15724800c15724800b15724800c15724800b
 15724800c15724800b15724800c16329600b15724800c15724800b15724800c15724800b15724800c15724800b
 15724800c330818400b15724800c15724800b16333200c15724800b15724800c15724800b16329600c
 15120000b15721200c15724800b15724800c15724800b15724800c15724800b15724800c16329600b15724800c
 15724800b15728400c15724800b15724800c15724800b15724800c15724800b15724800c15724800b15724800c
 16329600b15724800c15724800b15724800c31449600d15724800c15724800d15724800c15724800d15724800c
 34473600b @0,3600,3,5,0,3600,10,5,0,7200
Europe/Ljubljana 3484,3600,7200
 -2713913884b1808089084c48567600b12700800c16329600b15724800c15724800b15724800c14428800b
 1184198400c15724800b15724800c16329600b15724800c15724800b15724800c15724800b15724800c
 15724800b15724800c15724800b15724800c15724800b15724800c16329600b15724800c15724800b15724800c
 15724800b15724800c15724800b15724800c15724800b15724800c15724800b
 @3600,7200,3,5,0,7200,10,5,0,10800
Europe/London -75,0,3600,7200
 -3852662325b2160698325c11491200b16329600c13996800b16243200c16416000b15638400c15811200b
 15638400c18230400b13824000c15811200b15033600c16934400b16934400c12700800b18144000c13910400b
 18144000c14515200b16934400c14515200b16329600c15120000b17539200c14515200b16934400c14515200b
 16329600c15120000b16934400c14515200b16934400c14515200b16329600c15724800b16934400c14515200b
 16329600c15120000b16934400c14515200b16934400c14515200b16329600c15120000b16934400c18748800b
 8467200c37494000d8467200c20563200d10886400c20563200d11491200c19958400d14515200c17020800d
 8985600c7261200b16329600c15120000b13910400c2415600d10281600c7261200b11491200c19958400b
 13305600c18144000b14515200c16329600b15120000c16329600b15724800c16329600b15120000c14515200b
 16329600c15120000b16934400c14515200b17539200c14515200b16329600c15120000b16934400c14515200b
 16934400c14515200b16329600c15120000b15120000c18748800b12700800c18748800b13305600c18144000b
 12700800c18748800b12700800c18748800b12700800c18748800b12700800c19353600b9676800c116726400b
 12096000c19353600b12096000c19353600b12096000c19353600b12096000c19353600b12700800c18748800b
 12700800c18748800b12700800c19353600b12096000c19353600b12096000c19353600b13302000c18144000b
 13305600c18144000b13305600c18144000b13305600c18748800b13305600c18144000b13305600c18144000b
 13305600c18144000b13305600c18144000b13305600c18748800b12700800c18748800b13305600c18144000b
 13305600c18144000b13305600c18144000b13305600c18144000b13305600c18144000b
 @0,3600,3,5,0,3600,10,5,0,7200
Europe/Luxembourg 1476,3600,7200,0
 -2069713476b377216676c12013200b18140400c12186000b18151200c13305600b6040800d8380800b
 18759600d11480400b21780000d12261600b19447200d13039200b16938000d16930800b14522400d15112800b
 16333200d15807600b15642000d16930800b14518800d16326000b15123600d16930800b15123600d16930800b
 14526000d16329600b15120000d16934400b14515200d15724800b15724800d15120000b16934400d15724800b
 15724800d15120000b16329600d16934400b14515200d15724800b15724800d15120000b16329600d16934400b
 18748800d8467200b6825600c77929200b12700800c16329600b15724800c14515200b16934400c14428800b
 21168000c12182400b962150400c15120000b16329600c15724800b15724800c15724800b16329600c
 15120000b15724800c15724800b15724800c15724800b15724800c15724800b15724800c16329600b15724800c
 15724800b15724800c15724800b15724800c15724800b15724800c15724800b15724800c15724800b15724800c
 16329600b15724800c15724800b15724800c15724800b15724800c15724800b15724800c15724800b15724800c
 15724800b @3600,7200,3,5,0,7200,10,5,0,10800
Europe/Madrid -884,0,3600,7200
 -2177452800b545526000c15037200b15721200c15814800b142902000c14778000b48380400c14518800b
 16326000c15123600b16934400c15120000b16930800c14518800b242866800c9334800b15721200c2415600d
 13392000c31975200b13906800c67129200d10458000c19782000d14518800c16930800d14518800c16930800d
 14518800c16930800d14518800c81644400d13309200c774140400d15123600c16326000d15123600c
 15116400d15728400c16326000d15123600c16336800d15724800c15724800d15724800c16329600d15120000c
 15724800d15724800c15724800d15724800c15724800d15724800c15724800d16329600c15724800d15724800c
 15724800d15724800c15724800d15724800c15724800d15724800c15724800d15724800c15724800d16329600c
 15724800d15724800c15724800d15724800c15724800d15724800c15724800d15724800c15724800d15724800c
 @3600,7200,3,5,0,7200,10,5,0,10800
Europe/Malta 3484,3600,7200
 -2403478684b712713484c10278000b15728400c15807600b13827600c18226800b12618000c18745200b
 14518800c15721200b622861200c75175200b12700800c16329600b15638400c14515200b17020800c
 14335200b15818400c17539200b13903200c17539200b12708000c18748800b556408800c10882800b
 21171600c10281600b21168000c10281600b21772800c10281600b21168000c10281600b20563200c10886400b
 21168000c10886400b15638400c15724800b17625600c12787200b18669600c13302000b18147600c13302000b
 18147600c13302000b18147600c13302000b18147600c13302000b17024400c15030000b16333200c15724800b
 15724800c15724800b15724800c15724800b15724800c16329600b15724800c15724800b15724800c15724800b
 15724800c15724800b15724800c15724800b15724800c15724800b15724800c16329600b15724800c15724800b
 15724800c15724800b15724800c15724800b15724800c15724800b15724800c15724800b
 @3600,7200,3,5,0,7200,10,5,0,10800
Europe/Mariehamn =Europe/Helsinki
Europe/Minsk 6616,6600,7200,10800,3600,14400
 -2840147416b1398988816c193621800d347756400c42523200e12700800c16329600e15724800c7851600d
 1159570800f15807600d15728400f15807600d15728400f15807600d15814800f15732000d15724800f
 15724800d15724800f15724800d15724800f15724800d15724800f15724800d15724800f15724800d63507600c
 15724800d15724800c15724800d15724800c15724800d15724800c15724800d15724800c16329600d18144000c
 13305600d18144000c13305600d18144000c13305600d18748800c12700800d18748800c12700800d18748800c
 13305600d18144000c13305600d18144000c13305600d18748800c12700800d18748800c12700800d18748800c
 12700800d18748800c13305600d18144000c13305600d18144000c13305600d18748800c12700800d
Europe/Monaco 1772,561,0,3600,7200
 -2448318572b593914811c164588961d9417600c15033600d17020800c13219200d18230400c12614400d
 18835200c11404800d21772800c12268800d19440000c13046400d16934400c19958400d11491200c15120000d
 16329600c15724800d15724800c16934400d14515200c16329600d15120000c16934400d15120000c16934400d
 14515200c16329600d15120000c16934400d14515200c15724800d15724800c15120000d16934400c15724800d
 15724800c15120000d16329600c16934400d14515200c15724800d15724800c15120000d16329600c16934400d
 18748800c8478000d37573200e13302000d13309200e20570400d12700800e16329600d15724800e16236000d
 15213600e14428800d963442800e15721200d16336800e15120000d16329600e15724800d15724800e
 15724800d16329600e15120000d15724800e15724800d15724800e15724800d15724800e15724800d15724800e
 16329600d15724800e15724800d15724800e15724800d15724800e15724800d15724800e15724800d15724800e
 15724800d15724800e16329600d15724800e15724800d15724800e15724800d15724800e15724800d15724800e
 15724800d15724800e15724800d @3600,7200,3,5,0,7200,10,5,0,10800
Europe/Moscow 9017,9079,12679,16279,14400,10800,18000,7200
 -1688265017b31445938c15465600b13388400d9248400c22287600d2608279e3960000f47433600e2934000g
 14169600e2595600f31539600h243651600f1602457200e15807600f15728400e15807600f15728400e
 15807600f15814800e15732000f15724800e15724800f15724800e15724800f15724800e15724800f15724800e
 15724800f15724800e15724800f15724800e16329600f31453200h9676800f6044400e15724800f15724800e
 15724800f15724800e15724800f15724800e15724800f16329600e18144000f13305600e18144000f13305600e
 18144000f13305600e18748800f12700800e18748800f12700800e18748800f13305600e18144000f13305600e
 18144000f13305600e18748800f12700800e18748800f12700800e18748800f12700800e18748800f13305600e
 18144000f13305600e18144000f13305600e18748800f12700800e113094000f
Europe/Nicosia =Asia/Nicosia
Europe/Oslo 2580,3600,7200
 -2366757780b674872980c11311200b753062400c70254000b12700800c16329600b15724800c15724800b
 15724800c15724800b424483200c16329600b15724800c15724800b15724800c15724800b15724800c
 15724800b15724800c15724800b15724800c16329600b18748800c12700800b459043200c15120000b
 15724800c15724800b15724800c15724800b15724800c15724800b15724800c16329600b15724800c15724800b
 15724800c15724800b15724800c15724800b15724800c15724800b15724800c15724800b15724800c16329600b
 15724800c15724800b15724800c15724800b15724800c15724800b15724800c15724800b15724800c15724800b
 @3600,7200,3,5,0,7200,10,5,0,10800
Europe/Paris 561,0,3600,7200
 -1855958961b166144161c9417600b15033600c17020800b13219200c18230400b12614400c18835200b
 11404800c21772800b12268800c19440000b13046400c16934400b19958400c11491200b15120000c16329600b
 15724800c15724800b16934400c14515200b16329600c15120000b16934400c15120000b16934400c14515200b
 16329600c15120000b16934400c14515200b15724800c15724800b15120000c16934400b15724800c15724800b
 15120000c16329600b16934400c14515200b15724800c15724800b15120000c16329600b16934400c18748800b
 8478000c9576000d75178800c12700800d16329600c15724800d16236000c15213600d14428800c963442800d
 15721200c16336800d15120000c16329600d15724800c15724800d15724800c16329600d15120000c15724800d
 15724800c15724800d15724800c15724800d15724800c15724800d16329600c15724800d15724800c15724800d
 15724800c15724800d15724800c15724800d15724800c15724800d15724800c15724800d16329600c15724800d
 15724800c15724800d15724800c15724800d15724800c15724800d15724800c15724800d15724800c
 @3600,7200,3,5,0,7200,10,5,0,10800
Europe/Podgorica =Europe/Belgrade
Europe/Prague 3464,3600,7200,0
 -2469401864b775695464c13222800b17028000c13305600b18144000c13305600b679795200c81648000b
 12700800c16329600b15724800c15724800b15724800c15724800b18748800c13219200b4842000d7257600b
 4834800c14515200b16934400c14515200b16243200c15206400b930787200c15724800b16329600c15120000b
 15724800c15724800b15724800c15724800b15724800c15724800b15724800c16329600b15724800c15724800b
 15724800c15724800b15724800c15724800b15724800c15724800b15724800c15724800b15724800c16329600b
 15724800c15724800b15724800c15724800b15724800c15724800b15724800c15724800b15724800c15724800b
 @3600,7200,3,5,0,7200,10,5,0,10800
Europe/Riga 5794,9394,7200,10800,3600,14400
 -1632008194b13305600a17020800b4406400a219967200c449278594d28508400c42264000e12700800c
 16329600e15724800c15724800e943200d1150754400f15807600d15728400f15807600d15728400f15807600d
 15814800f15732000d15724800f15724800d15724800f15724800d15724800f15724800d15724800f15724800d
 31453200c15724800d16329600c15724800d15724800c15724800d15724800c15724800d15724800c15724800d
 15724800c15724800d15724800c16329600d15724800c15728400d18144000c13305600d18144000c13305600d
 18748800c44150400d @7200,10800,3,5,0,10800,10,5,0,14400
Europe/Rome 2996,3600,7200
 -2403565200b712800000c10278000b15728400c15807600b13827600c18226800b12618000c18745200b
 14518800c15721200b622861200c75175200b12700800c16329600b15724800c14428800b17020800c
 14335200b15818400c17539200b13903200c17539200b12708000c18748800b556408800c10882800b
 21171600c10281600b21168000c10281600b21772800c10281600b21168000c10281600b20563200c10886400b
 21168000c10886400b21168000c10281600b20563200c10886400b21168000c10281600b21168000c10281600b
 20563200c10886400b21168000c10886400b20563200c10886400b16336800c15120000b15724800c15724800b
 15724800c15724800b15724800c15724800b15724800c16329600b15724800c15724800b15724800c15724800b
 15724800c15724800b15724800c15724800b15724800c15724800b15724800c16329600b15724800c15724800b
 15724800c15724800b15724800c15724800b15724800c15724800b15724800c15724800b
 @3600,7200,3,5,0,7200,10,5,0,10800
Europe/Samara 12020,10800,14400,18000
 -1593820800b346280400c1602457200d15807600c15728400d15807600c15728400d15807600c15814800d
 15732000c15724800d15724800c15724800d15724800c15724800d15724800c15724800d15724800c31453200b
 15724800c16329600b33267600c13903200d15724800c15724800d15724800c15724800d15724800c15724800d
 15724800c16329600d18144000c13305600d18144000c13305600d18144000c13305600d18748800c12700800d
 18748800c12700800d18748800c13305600d18144000c13305600d18144000c13305600d18748800c12700800d
 18748800c12700800d18748800c12700800d18748800c13305600d18144000c13305600d18144000c32058000b
 12700800c
Europe/San_Marino =Europe/Rome
Europe/Sarajevo 4420,3600,7200
 -2713914820b1808090020c48567600b12700800c16329600b15724800c15724800b15724800c14428800b
 1184198400c15724800b15724800c16329600b15724800c15724800b15724800c15724800b15724800c
 15724800b15724800c15724800b15724800c15724800b15724800c16329600b15724800c15724800b15724800c
 15724800b15724800c15724800b15724800c15724800b15724800c15724800b
 @3600,7200,3,5,0,7200,10,5,0,10800
Europe/Saratov 11058,10800,14400,18000
 -1593820800b346280400c1602457200d15807600c15728400d15807600c15728400d15807600c15814800d
 15732000c15724800d15724800c15724800d15724800c15724800d15724800c31453200b15724800c15724800b
 15724800c16329600b15724800c47174400b15724800c15724800b15724800c15724800b15724800c15724800b
 16329600c18144000b13305600c18144000b13305600c18144000b13305600c18748800b12700800c18748800b
 12700800c18748800b13305600c18144000b13305600c18144000b13305600c18748800b12700800c18748800b
 12700800c18748800b12700800c18748800b13305600c18144000b13305600c18144000b13305600c18748800b
 12700800c113094000b66531600c
Europe/Simferopol 8184,8160,7200,10800,3600,14400
 -2840148984b1398988824c193623360d358642800c31636800e12700800c16329600e15724800c853200d
 1166569200f15807600d15728400f15807600d15728400f15807600d15814800f15732000d15724800f
 15724800d15724800f15724800d15724800f15724800d15724800f15724800d15724800f15724800d24192000c
 55040400d15724800c15724800d15724800c15724800d3013200f12708000d15724800f15724800d16322400f
 18154800d31453200c13305600d18144000c13305600d18748800c12700800d18748800c12700800d18748800c
 13305600d18144000c13305600d18144000c13305600d18748800c12700800d18748800c12700800d18748800c
 12700800d18748800c13305600d18144000c13305600d18144000c13305600d18748800c12700800d18748800c
 12700800d18748800c13305600d18144000c13302000f18136800d
Europe/Skopje 5144,3600,7200
 -2713915544b1808090744c48567600b12700800c16329600b15724800c15724800b15724800c14428800b
 1184198400c15724800b15724800c16329600b15724800c15724800b15724800c15724800b15724800c
 15724800b15724800c15724800b15724800c15724800b15724800c16329600b15724800c15724800b15724800c
 15724800b15724800c15724800b15724800c15724800b15724800c15724800b
 @3600,7200,3,5,0,7200,10,5,0,10800
Europe/Sofia 5596,7016,7200,3600,10800
 -2840146396b470619380c1512269816d12700800c16329600d15724800c15724800d15728400c1072810800e
 15814800c16239600e15210000c16239600e15127200c16322400e15130800c15724800e15724800c15724800e
 16329600c15724800e15724800c15724800e15724800c15724800e15724800c15724800e15724800c15724800e
 15724800c15724800e16329600c15717600e15721200c15728400e15721200c15728400e15721200c15728400e
 15721200c15728400e15721200c16333200e18140400c @7200,10800,3,5,0,10800,10,5,0,14400
Europe/Stockholm 4332,3614,3600,7200
 -2871681132b662688718c516495614d12013200c2004314400d15120000c15724800d15724800c15724800d
 15724800c15724800d15724800c15724800d16329600c15724800d15724800c15724800d15724800c15724800d
 15724800c15724800d15724800c15724800d15724800c15724800d16329600c15724800d15724800c15724800d
 15724800c15724800d15724800c15724800d15724800c15724800d15724800c
 @3600,7200,3,5,0,7200,10,5,0,10800
Europe/Tallinn 5940,3600,7200,10800,14400
 -1638322740b6316740c13305600b24876000a57885660c607995540d34988400c35697600b12700800c
 16329600b15724800c14850000d1152572400e15807600d15728400e15807600d15728400e15807600d
 15814800e15732000d15724800e15724800d15724800e15724800d15724800e15724800d15724800e15724800d
 31453200c15724800d16329600c15724800d15724800c15724800d15724800c15724800d15724800c15724800d
 15724800c15724800d15724800c16329600d18144000c13305600d18144000c13305600d18147600c13305600d
 18748800c76204800d @7200,10800,3,5,0,10800,10,5,0,14400
Europe/Tirane 4760,3600,7200
 -1767230360b834884360c75088800b12700800c1036800b980373600c13042800b18234000c13302000b
 18406800c13302000b18752400c12697200b18666000c12783600b18666000c12783600b18666000c13302000b
 17629200c13302000b18752400c13302000b17024400c14338800b15814800c15732000b15724800c15724800b
 15724800c15724800b15724800c15724800b15724800c15724800b15724800c15724800b15724800c16329600b
 15724800c15724800b15724800c15724800b15724800c15724800b15724800c15724800b15724800c15724800b
 @3600,7200,3,5,0,7200,10,5,0,10800
Europe/Tiraspol =Europe/Chisinau
Europe/Ulyanovsk 11616,10800,14400,18000,7200
 -1593820800b346280400c1602457200d15807600c15728400d15807600c15728400d15807600c15814800d
 15732000c15724800d15724800c15724800d15724800c15724800d15724800c15724800d15724800c31453200b
 15724800c16329600b31453200e9676800b6044400c15724800b15724800c15724800b15724800c15724800b
 15724800c15724800b16329600c18144000b13305600c18144000b13305600c18144000b13305600c18748800b
 12700800c18748800b12700800c18748800b13305600c18144000b13305600c18144000b13305600c18748800b
 12700800c18748800b12700800c18748800b12700800c18748800b13305600c18144000b13305600c18144000b
 13305600c18748800b12700800c113094000b44758800c
Europe/Uzhgorod =Europe/Kyiv
Europe/Vaduz 2284,3600,7200
 -2385247084b1480811884c13305600b18144000c13305600b1214355600c15724800b15724800c15724800b
 15724800c15724800b15724800c16329600b15724800c15724800b15724800c15724800b15724800c15724800b
 15724800c15724800b15724800c15724800b15724800c16329600b15724800c15724800b15724800c15724800b
 15724800c15724800b15724800c15724800b15724800c15724800b @3600,7200,3,5,0,7200,10,5,0,10800
Europe/Vatican =Europe/Rome
Europe/Vienna 3921,3600,7200
 -2422055121b728348721c13222800b17028000c13305600b18144000c13305600b48988800c13910400b
 616896000c81648000b12700800c16329600b15724800c15724800b15724800c864000b31708800c15206400b
 15638400c15724800b16934400c14515200b994284000c15116400b15735600c15724800b15724800c
 15724800b15724800c15724800b15724800c16329600b15724800c15724800b15724800c15724800b15724800c
 15724800b15724800c15724800b15724800c15724800b15724800c16329600b15724800c15724800b15724800c
 15724800b15724800c15724800b15724800c15724800b15724800c15724800b
 @3600,7200,3,5,0,7200,10,5,0,10800
Europe/Vilnius 6076,5040,5736,3600,7200,10800,14400
 -2840146876b1167610636c87436104d23848536e7686000d625366800f28072800e42868800d12700800e
 16329600d15724800e10357200f1157065200g15807600f15728400g15807600f15728400g15807600f
 15814800g15732000f15724800g15724800f15724800g15724800f15724800g15724800f15724800g15724800f
 31453200e15724800f16329600e15724800f15724800e15724800f15724800e15724800f15724800e15724800f
 15724800e15724800f15724800e16329600f18144000e13305600f18144000e31453200d13305600e 126403200f
 @7200,10800,3,5,0,10800,10,5,0,14400
Europe/Volgograd 10660,10800,14400,18000
 -1577761060b330220660c1602457200d15807600c15728400d15807600c15728400d15807600c15814800d
 15732000c15724800d15724800c15724800d15724800c15724800d15724800c31453200b15724800c15724800b
 15724800c16329600b15724800c47174400b15724800c15724800b15724800c15724800b15724800c15724800b
 16329600c18144000b13305600c18144000b13305600c18144000b13305600c18748800b12700800c18748800b
 12700800c18748800b13305600c18144000b13305600c18144000b13305600c18748800b12700800c18748800b
 12700800c18748800b12700800c18748800b13305600c18144000b13305600c18144000b13305600c18748800b
 12700800c113094000b126406800c68338800b
Europe/Warsaw 5040,3600,7200,10800
 -1717032240b23325840c13222800b17028000c13305600b18144000c31532400d13305600c85442400b
 569991600c74476800b12700800c16329600b15724800c15894000b17881200c16066800b14173200c
 15213600b18057600c13305600b16934400c14515200b16329600c15120000b241916400c10281600b
 15724800c15724800b21168000c10886400b15724800c15724800b20563200c10886400b20563200c10886400b
 20563200c10886400b21168000c10281600b394934400c15120000b16329600c15724800b15724800c
 15724800b16329600c15120000b15724800c15724800b15724800c15724800b15724800c15724800b15724800c
 16329600b15724800c15724800b15724800c15724800b15724800c15724800b15728400c15724800b15724800c
 15724800b15724800c16329600b15724800c15724800b15724800c15724800b15724800c15724800b15724800c
 15724800b15724800c15724800b @3600,7200,3,5,0,7200,10,5,0,10800
Europe/Zagreb 3832,3600,7200
 -2713914232b1808089432c48567600b12700800c16329600b15724800c15724800b15724800c14428800b
 1184198400c15724800b15724800c16329600b15724800c15724800b15724800c15724800b15724800c
 15724800b15724800c15724800b15724800c15724800b15724800c16329600b15724800c15724800b15724800c
 15724800b15724800c15724800b15724800c15724800b15724800c15724800b
 @3600,7200,3,5,0,7200,10,5,0,10800
Europe/Zaporozhye =Europe/Kyiv
Europe/Zurich 2048,1786,3600,7200
 -3675198848b1289952262c1480811386d13305600c18144000d13305600c1214355600d15724800c15724800d
 15724800c15724800d15724800c15724800d16329600c15724800d15724800c15724800d15724800c15724800d
 15724800c15724800d15724800c15724800d15724800c15724800d16329600c15724800d15724800c15724800d
 15724800c15724800d15724800c15724800d15724800c15724800d15724800c
 @3600,7200,3,5,0,7200,10,5,0,10800"

end NodeSidecar.Zone.Table
