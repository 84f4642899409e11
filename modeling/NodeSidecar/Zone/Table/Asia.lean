/-
**Time zones of Asia and the Indian Ocean.**

One record for each name, in the form that `NodeSidecar.Zone.Record` reads: the offsets the zone
has used, in seconds, then its changes as the seconds since the change before it with the letter
of the offset that begins, then the yearly rule it still follows; or `=` and the name of the zone
that it is another name of.  A line that begins with a space continues the record before it.
-/

set_option autoImplicit false

namespace NodeSidecar.Zone.Table

/-- The records of the zones of Asia and the Indian Ocean. -/
def asia : String := "Asia/Aden 10794,10800 -631162794b
Asia/Almaty 18468,18000,21600,25200
 -1441170468b193622868c1602457200d15807600c15728400d15807600c15728400d15807600c15814800d
 15732000c15724800d15724800c15724800d15724800c15724800d15724800c15724800d15724800c15724800d
 15724800c15724800d16329600c31453200b9676800c6044400d15724800c15724800d15724800c15724800d
 15724800c15724800d15724800c16329600d18144000c13305600d18144000c13305600d18144000c13305600d
 18748800c12700800d18748800c12700800d18748800c13305600d18144000c13305600d18144000c13305600d
 18748800c610063200b
Asia/Amman 8624,7200,10800
 -1230776624b1338942224c10105200b18320400c13215600b18320400c13215600b18406800c15894000b
 15642000c13215600b18234000c13215600b205203600c15807600b15987600c15721200b15728400c
 15721200b15728400c16326000b18406800c13042800b17542800c13906800b16765200c14079600b16938000c
 15116400b15728400c15721200b15728400c14511600b17542800c13910400b17539200c14515200b16934400c
 14515200b16934400c14515200b24710400c7344000b16243200c15811200b15638400c15811200b15724800c
 15724800b15724800c18144000b13305600c17539200b14515200c15724800b15724800c18144000b13305600c
 18144000b13305600c18748800b12700800c18748800b12700800c18748800b13305600c18144000b13305600c
 54428400b8470800c18748800b12700800c18748800b13305600c18144000b13305600c18144000b13305600c
 18144000b13305600c18144000b13305600c18748800b12700800c18748800b10281600c
Asia/Anadyr 42596,43200,46800,50400,39600
 -1441194596b193621796c1602457200d15807600c31539600b15728400c15807600b15814800c15732000b
 15724800c15724800b15724800c15724800b15724800c15724800b15724800c15724800b15724800c15724800b
 15724800c16329600b31453200e9676800b6044400c15724800b15724800c15724800b15724800c15724800b
 15724800c15724800b16329600c18144000b13305600c18144000b13305600c18144000b13305600c18748800b
 12700800c18748800b12700800c18748800b13305600c18144000b13305600c18144000b13305600c18748800b
 12700800c18748800b12700800c18748800b12700800c18748800b13305600c18144000b13305600c18144000b
 32058000e12700800b
Asia/Aqtau 12064,14400,18000,21600
 -1441164064b193620064c1618268400d31532400c15728400d15807600c15814800d15732000c15724800d
 15724800c15724800d15724800c15724800d15724800c15724800d15724800c15724800d15724800c15724800d
 16329600c31453200b9676800c6044400d15724800c15724800d15724800c15724800d15724800b15728400c
 15724800b16329600c18144000b13305600c18144000b13305600c18144000b13305600c18748800b12700800c
 18748800b12700800c18748800b13305600c18144000b13305600c18144000b13305600c
Asia/Aqtobe 13720,14400,18000,21600
 -1441165720b193621720c1602457200d47343600c15728400d15807600c15814800d15732000c15724800d
 15724800c15724800d15724800c15724800d15724800c15724800d15724800c15724800d15724800c15724800d
 16329600c31453200b9676800c6044400d15724800c15724800d15724800c15724800d15724800c15724800d
 15724800c16329600d18144000c13305600d18144000c13305600d18144000c13305600d18748800c12700800d
 18748800c12700800d18748800c13305600d18144000c13305600d18144000c13305600d18748800c
Asia/Ashgabat 14012,14400,18000,21600
 -1441166012b193622012c1602457200d15807600c15728400d15807600c15728400d15807600c15814800d
 15732000c15724800d15724800c15724800d15724800c15724800d15724800c15724800d15724800c15724800d
 15724800c15724800d16329600c31453200b9676800c
Asia/Ashkhabad =Asia/Ashgabat
Asia/Atyrau 12464,10800,18000,21600,14400
 -1441164464b193624064c1618264800d31532400c15728400d15807600c15814800d15732000c15724800d
 15724800c15724800d15724800c15724800d15724800c15724800d15724800c15724800d15724800c15724800d
 16329600c31453200e9676800c6044400d15724800c15724800d15724800c15724800d15724800c15724800d
 15724800c16329600d18144000c13305600d18144000c13305600d18144000c32058000e12700800c18748800e
 12700800c18748800e13305600c18144000e13305600c18144000e13305600c
Asia/Baghdad 10660,10656,10800,14400
 -2524532260b883526404c2030054256d13215600c15642000d15894000c15814800d15807600c15728400d
 15642000c15724800d15724800c15724800d15724800c15724800d15724800c15724800d15724800c15724800d
 16329600c15818400d15811200c15811200d15811200c15724800d15811200c15724800d15811200c15724800d
 15811200c15811200d15811200c15724800d15811200c15724800d15811200c15724800d15811200c15811200d
 15811200c15724800d15811200c15724800d15811200c15724800d15811200c15811200d15811200c15724800d
 15811200c15724800d15811200c15724800d15811200c
Asia/Bahrain 12140,12600,14400,10800 -897880940b77327540c896743800d
Asia/Baku 11964,10800,14400,18000
 -1441163964b1036023564c760057200d15807600c15728400d15807600c15728400d15807600c15814800d
 15732000c15724800d15724800c15724800d15724800c15724800d15724800c15724800d15724800c15724800d
 15724800c15724800d16329600c31453200b15724800c126410400d18144000c13302000d18144000c
 13305600d18144000c13305600d18748800c12700800d18748800c12700800d18748800c13305600d18144000c
 13305600d18144000c13305600d18748800c12700800d18748800c12700800d18748800c12700800d18748800c
 13305600d18144000c13305600d18144000c13305600d18748800c12700800d18748800c12700800d18748800c
 13305600d18144000c13305600d18144000c13305600d18144000c
Asia/Bangkok 24124,25200 -1570084924b
Asia/Barnaul 20100,21600,25200,28800
 -1579844100b332292900c1602457200d15807600c15728400d15807600c15728400d15807600c15814800d
 15732000c15724800d15724800c15724800d15724800c15724800d15724800c15724800d15724800c15724800d
 15724800c15724800d16329600c31453200b9676800c6044400d15724800c15724800d15724800c15724800d
 15724800c15724800d5432400c10296000b16329600c18144000b13305600c18144000b13305600c18144000b
 13305600c18748800b12700800c18748800b12700800c18748800b13305600c18144000b13305600c18144000b
 13305600c18748800b12700800c18748800b12700800c18748800b12700800c18748800b13305600c18144000b
 13305600c18144000b13305600c18748800b12700800c113094000b44758800c
Asia/Beirut 8520,7200,10800
 -2840149320b1269735720c18226800b13827600c15807600b15037200c16930800b16938000c12697200b
 1061082000c13215600b18320400c13215600b18320400c13215600b18406800c13215600b18320400c
 13215600b338432400c8722800b18320400c13215600b18320400c13215600b18320400c13215600b18406800c
 13215600b18320400c13215600b18234000c13215600b176259600c14511600b17024400c14511600b
 17024400c14511600b17024400c14511600b19789200c11833200b17802000c13734000b17024400c14511600b
 17024400c14511600b17110800c13474800b15123600c15721200b15728400c15721200b15728400c15721200b
 16333200c15721200b15728400c15721200b15728400c15721200b @7200,10800,3,5,0,0,10,5,0,0
Asia/Bishkek 17904,18000,21600,25200
 -1441169904b193622304c1602457200d15807600c15728400d15807600c15728400d15807600c15814800d
 15732000c15724800d15724800c15724800d15724800c15724800d15724800c15724800d15724800c15724800d
 15724800c15724800d16329600c28944000b19436400c14511600b16938000c14511600b16938000c14511600b
 16938000c14511600b16938000c15116400b15737400c18140400b13309200c18140400b13309200c18745200b
 12704400c18745200b12704400c18745200b13309200c18140400b13309200c18140400b13309200c18745200b
 12704400c
Asia/Brunei 27580,27000,28800 -1383464380b215827780c
Asia/Calcutta =Asia/Kolkata
Asia/Chita 27232,28800,32400,36000
 -1579419232b331860832c1602457200d15807600c15728400d15807600c15728400d15807600c15814800d
 15732000c15724800d15724800c15724800d15724800c15724800d15724800c15724800d15724800c15724800d
 15724800c15724800d16329600c31453200b9676800c6044400d15724800c15724800d15724800c15724800d
 15724800c15724800d15724800c16329600d18144000c13305600d18144000c13305600d18144000c13305600d
 18748800c12700800d18748800c12700800d18748800c13305600d18144000c13305600d18144000c13305600d
 18748800c12700800d18748800c12700800d18748800c12700800d18748800c13305600d18144000c13305600d
 18144000c13305600d18748800c12700800d113094000b44762400c
Asia/Choibalsan =Asia/Ulaanbaatar
Asia/Chongqing =Asia/Shanghai
Asia/Chungking =Asia/Shanghai
Asia/Colombo 19164,19172,19800,21600,23400
 -2840159964b820454392c1136418572d20647800e98587800c1597014000e13303800d298773000c
Asia/Dacca =Asia/Dhaka
Asia/Damascus 8712,7200,10800
 -1577931912b9339912c14511600b16938000c14511600b16938000c14511600b16938000c15116400b
 1216861200c13388400b18320400c13129200b18493200c13215600b18320400c13129200b17802000c
 13820400b18320400c13215600b18406800c13215600b18320400c13215600b18320400c13215600b18320400c
 13215600b18406800c13215600b18320400c13215600b18320400c13215600b18320400c13215600b18406800c
 13215600b18320400c10623600b20912400c10623600b145242000c15116400b16506000c15116400b
 43462800c20300400b12358800c21078000b11754000c19868400b13050000c15894000b15728400c15721200b
 15807600c15807600b16419600c15202800b15210000c15807600b16246800c15807600b15728400c15807600b
 15814800c15807600b15642000c15894000b15555600c15980400b15728400c15807600b15814800c15807600b
 15728400c15807600b15728400c15807600b15728400c15807600b15814800c15807600b15728400c15807600b
 15728400c15030000b16333200c18745200b13309200c18226800b12618000c18745200b13309200c18140400b
 13309200c18140400b13309200c18140400b13309200c18140400b13309200c18745200b12704400c18745200b
 12704400c18745200b13309200c18140400b13309200c18140400b13309200c18140400b13309200c18745200b
 12704400c18745200b12704400c
Asia/Dhaka 21700,21200,23400,19800,21600,25200
 -2524543300b1632960500c19524200d9421200c286498800e1821569400f16848000e
Asia/Dili 30140,28800,32400 -1830412800b951260400c1079049600b769222800c
Asia/Dubai 13272,14400 -1577936472b
Asia/Dushanbe 16512,18000,21600,25200
 -1441168512b193620912c1602457200d15807600c15728400d15807600c15728400d15807600c15814800d
 15732000c15724800d15724800c15724800d15724800c15724800d15724800c15724800d15724800c15724800d
 15724800c15724800d16329600c29725200b
Asia/Famagusta 8148,7200,10800
 -1518920148b1685492148c15721200b18666000c12870000b15037200c15116400b16333200c15807600b
 15642000c15721200b16333200c15116400b15728400c15721200b15728400c15721200b15728400c15721200b
 15728400c16326000b15728400c15721200b15728400c15721200b15728400c15721200b15728400c15721200b
 15728400c15721200b15728400c16326000b15728400c15721200b15728400c15721200b15728400c15721200b
 15728400c15721200b15728400c15721200b16333200c15721200b15728400c15721200b15728400c18154800b
 13305600c18748800b12700800c18748800b12700800c18748800b13305600c18144000b13305600c18144000b
 13305600c18748800b12700800c18748800b12700800c18748800b12700800c18748800b13305600c18144000b
 13305600c18144000b13305600c18748800b12700800c18748800b12700800c18748800b13305600c18144000b
 13305600c18144000b13305600c18144000b13305600c50198400b @7200,10800,3,5,0,10800,10,5,0,14400
Asia/Gaza 8272,7200,10800
 -2185409872b1251771472c10540800b4060800c61689600b13046400c18489600b13132800c18489600b
 14342400c17193600b14342400c17193600b332028000c12438000b18320400c13215600b18324000c
 13136400b18486000c13136400b18399600c13136400b18399600c13136400b18399600c13136400b18486000c
 13136400b18399600c13136400b18399600c13222800b18313200c3016800b223693200c8463600b16333200c
 11487600b155437200c3628800b114912000c9676800b19958400c12092400b22381200c9673200b19011600c
 13042800b18147600c12697200b20566800c10882800b17542800c13302000b18147600c13906800b18147600c
 13906800b17974800c13474800b17974800c12870000b18579600c13474800b18579600c14515200b16934400c
 14515200b16934400c14515200b18144000c15721200b16333200c15721200b15728400c15721200b15728400c
 15721200b15728400c15721200b15728400c14515200b16934400c14864400b15462000c15030000b16506000c
 14259600b17017200c13302000b18147600c13910400b17625660c11833140b20134860c10537140b20912400c
 15120000b16329600c15721200b15728400c18140400b13395600c18057600b13395600c18745200b12704400c
 18745200b12704400c18745200b13219200c18226800b13309200c18144000b13305600c18662400b12873600c
 18666000b15728400c15721200b15123600c16326000b14518800c16930800b13309200c18140400b13309200c
 18745200b12704400c18745200b12704400c18745200b13309200c18140400b13309200c18140400b13309200c
 18745200b12704400c18745200b12704400c18745200b12704400c18745200b13309200c17535600b13914000c
 16930800b14518800c15721200b15728400c15116400b16333200c13906800b4237200c601200b13309200c
 12697200b3632400c1810800b13309200c12092400b3632400c2415600b13309200c10882800b4237200c
 3020400b13309200c10278000b3632400c4834800b12704400c9673200b3632400c5439600b12704400c
 8463600b4237200c6044400b13309200c7254000b3632400c7254000b13309200c6044400b4237200c7858800b
 13309200c5439600b3632400c9673200b12704400c4834800b3632400c10278000b12704400c3625200b
 4237200c10882800b13309200c2415600b3632400c12092400b13309200c1206000b4237200c12697200b
 13309200c601200b4237200c13302000b16938000c15116400b15728400c15721200b14518800c16930800b
 13914000c17535600b13309200c18140400b13309200c18745200b12704400c18745200b12704400c18745200b
 12704400c18745200b13309200c18140400b13309200c18140400b13309200c18745200b12704400c18745200b
 12704400c18140400b13914000c16930800b14518800c16326000b15123600c15116400b16333200c14511600b
 3632400c601200b12704400c13906800b3632400c1206000b12704400c12697200b4237200c1810800b
 13309200c11487600b3632400c3020400b13309200c10278000b4237200c3625200b13309200c9673200b
 4237200c4834800b12704400c9068400b3632400c6044400b12704400c7858800b4237200c6649200b
 13309200c6649200b3632400c7858800b13309200c6044400b3632400c8463600b13309200c4834800b
 4237200c9068400b13309200c4230000b3632400c10882800b12704400c3020400b4237200c11487600b
 12704400c2415600b4237200c12092400b13309200c1206000b3632400c
 @7200,10800,3,4,4,180000,10,4,4,180000
Asia/Harbin =Asia/Shanghai
Asia/Hebron 8423,7200,10800
 -2185410023b1251771623c10540800b4060800c61689600b13046400c18489600b13132800c18489600b
 14342400c17193600b14342400c17193600b332028000c12438000b18320400c13215600b18324000c
 13136400b18486000c13136400b18399600c13136400b18399600c13136400b18399600c13136400b18486000c
 13136400b18399600c13136400b18399600c13222800b18313200c3016800b223693200c8463600b16333200c
 11487600b155437200c3628800b114912000c9676800b19958400c12092400b22381200c9673200b19011600c
 13042800b18147600c12697200b20566800c10882800b17542800c13302000b18147600c13906800b18147600c
 13906800b17974800c13474800b17974800c12870000b18579600c13474800b18579600c14515200b16934400c
 14515200b16934400c14515200b18144000c15721200b16333200c15721200b15728400c15721200b15728400c
 15721200b15728400c15721200b15728400c14515200b16934400c14864400b15462000c15030000b16506000c
 14259600b17017200c13561200b17888400c13910400b17539200c11919600b20134860c10537140b2509200c
 2674800b15728400c15120000b16329600c15721200b15728400c18140400b13395600c18057600b13395600c
 18745200b12704400c18745200b12704400c18745200b13219200c18226800b13309200c18144000b13305600c
 18662400b12873600c18666000b15728400c15721200b15123600c16326000b14518800c16930800b13309200c
 18140400b13309200c18745200b12704400c18745200b12704400c18745200b13309200c18140400b13309200c
 18140400b13309200c18745200b12704400c18745200b12704400c18745200b12704400c18745200b13309200c
 17535600b13914000c16930800b14518800c15721200b15728400c15116400b16333200c13906800b4237200c
 601200b13309200c12697200b3632400c1810800b13309200c12092400b3632400c2415600b13309200c
 10882800b4237200c3020400b13309200c10278000b3632400c4834800b12704400c9673200b3632400c
 5439600b12704400c8463600b4237200c6044400b13309200c7254000b3632400c7254000b13309200c
 6044400b4237200c7858800b13309200c5439600b3632400c9673200b12704400c4834800b3632400c
 10278000b12704400c3625200b4237200c10882800b13309200c2415600b3632400c12092400b13309200c
 1206000b4237200c12697200b13309200c601200b4237200c13302000b16938000c15116400b15728400c
 15721200b14518800c16930800b13914000c17535600b13309200c18140400b13309200c18745200b12704400c
 18745200b12704400c18745200b12704400c18745200b13309200c18140400b13309200c18140400b13309200c
 18745200b12704400c18745200b12704400c18140400b13914000c16930800b14518800c16326000b15123600c
 15116400b16333200c14511600b3632400c601200b12704400c13906800b3632400c1206000b12704400c
 12697200b4237200c1810800b13309200c11487600b3632400c3020400b13309200c10278000b4237200c
 3625200b13309200c9673200b4237200c4834800b12704400c9068400b3632400c6044400b12704400c
 7858800b4237200c6649200b13309200c6649200b3632400c7858800b13309200c6044400b3632400c8463600b
 13309200c4834800b4237200c9068400b13309200c4230000b3632400c10882800b12704400c3020400b
 4237200c11487600b12704400c2415600b4237200c12092400b13309200c1206000b3632400c
 @7200,10800,3,4,4,180000,10,4,4,180000
Asia/Ho_Chi_Minh 25590,25200,28800,32400
 -1851577590b999471990c69462000d14774400b49773600c260323200b142124400c487468800b
Asia/Hong_Kong 27402,28800,32400,30600
 -2056690800b1155780000c9331200d7331400c123039000b13302000c19366200b11491200c19958400b
 13305600c15724800b13305600c18144000b13305600c18144000b13305600c18144000b13910400c18144000b
 13305600c18140400b12099600c19350000b12099600c19954800b11494800c19954800b12099600c19350000b
 12099600c19350000b12099600c19350000b12099600c19954800b11494800c19954800b11494800c19954800b
 12099600c19350000b12099600c19350000b14518800c15721200b15728400c15721200b15728400c16326000b
 15728400c15721200b15728400c15721200b15728400c15721200b15728400c15721200b15728400c16326000b
 15728400c15721200b6051600c25398000b15728400c15721200b15728400c15721200b81046800c13906800b
Asia/Hovd 21996,21600,25200,28800
 -2032927596b2285366796c165538800d15807600c15814800d15721200c15728400d15721200c15728400d
 15721200c15728400d15721200c15728400d15721200c15728400d15721200c15728400d16326000c15728400d
 15721200c15728400d15721200c15728400d15721200c15728400d15721200c15728400d15721200c16333200d
 15721200c15728400d15721200c15728400d15721200c81572400d13302000c15728400d15721200c15728400d
 15721200c15728400d15721200c15728400d15721200c15728400d16326000c267930000d15714000c
 15735600d15714000c
Asia/Irkutsk 25025,25200,28800,32400
 -1575874625b328319825c1602457200d15807600c15728400d15807600c15728400d15807600c15814800d
 15732000c15724800d15724800c15724800d15724800c15724800d15724800c15724800d15724800c15724800d
 15724800c15724800d16329600c31453200b9676800c6044400d15724800c15724800d15724800c15724800d
 15724800c15724800d15724800c16329600d18144000c13305600d18144000c13305600d18144000c13305600d
 18748800c12700800d18748800c12700800d18748800c13305600d18144000c13305600d18144000c13305600d
 18748800c12700800d18748800c12700800d18748800c12700800d18748800c13305600d18144000c13305600d
 18144000c13305600d18748800c12700800d113094000c
Asia/Istanbul =Europe/Istanbul
Asia/Jakarta 25632,26400,27000,32400,28800,25200
 -1451719200b278812800c296265000d110586600c82171800e63070200c431397000f
Asia/Jayapura 33768,32400,34200 -1172913768b373422168c610068600b
Asia/Jerusalem 8454,8440,7200,10800,14400
 -2840149254b1199145614c707365240d10540800c4060800d61689600c13046400d18489600c13132800d
 18489600c14342400d17193600c14342400d17193600c49161600e8726400d5270400c15638400d15897600c
 14342400d13132800c17107200d19353600c13910400d15724800c15120000d13305600c23587200d7862400c
 23587200d7862400c22982400d10281600c18144000d12700800c529797600d8463600c16333200d11487600c
 155437200d3628800c114912000d9676800c19958400d12092400c22381200d9673200c19011600d13042800c
 18147600d12697200c20566800d10882800c17542800d13302000c18147600d13906800c18147600d13906800c
 17974800d13474800c17974800d12870000c18579600d13474800c16765200d15980400c16074000d15289200c
 16160400d14684400c17982000d13302000c19357200d15112800c15987600d14511600c16074000d16585200c
 14864400d16326000c16160400d14511600c16509600d16498800c14950800d15894000c15555600d14684400c
 16765200d16498800c14950800d15894000c15555600d14684400c17370000d15894000c15555600d15289200c
 @7200,10800,3,4,4,93600,10,5,0,7200
Asia/Kabul 16608,14400,16200 -2524538208b1735605408c
Asia/Kamchatka 38076,39600,43200,46800
 -1487759676b240190476c1602457200d15807600c15728400d15807600c15728400d15807600c15814800d
 15732000c15724800d15724800c15724800d15724800c15724800d15724800c15724800d15724800c15724800d
 15724800c15724800d16329600c31453200b9676800c6044400d15724800c15724800d15724800c15724800d
 15724800c15724800d15724800c16329600d18144000c13305600d18144000c13305600d18144000c13305600d
 18748800c12700800d18748800c12700800d18748800c13305600d18144000c13305600d18144000c13305600d
 18748800c12700800d18748800c12700800d18748800c12700800d18748800c13305600d18144000c13305600d
 18144000c32058000b12700800c
Asia/Karachi 16092,19800,23400,18000,21600
 -1988166492b1125529092c98492400b188010000d1594254600e15721200d178419600e13215600d14259600e
 17276400d
Asia/Kashgar =Asia/Urumqi
Asia/Kathmandu 20476,19800,20700 -1577943676b2082845476c
Asia/Katmandu =Asia/Kathmandu
Asia/Khandyga 32533,28800,32400,36000,39600
 -1579424533b331866133c1602457200d15807600c15728400d15807600c15728400d15807600c15814800d
 15732000c15724800d15724800c15724800d15724800c15724800d15724800c15724800d15724800c15724800d
 15724800c15724800d16329600c31453200b9676800c6044400d15724800c15724800d15724800c15724800d
 15724800c15724800d15724800c16329600d18144000c13305600d18144000c13305600d18144000c13305600d
 18748800c12700800d18748800c12700800d18748800c13305600d18144000c13305600d18144000c5781600d
 7520400e18748800d12700800e18748800d12700800e18748800d12700800e18748800d13305600e18144000d
 13305600e18144000d13305600e18748800d12700800e14677200d98420400c
Asia/Kolkata 21208,21200,19270,19800,23400
 -3645237208b489542408c1135989130d1128124270e19522800d9421200e98492400d
Asia/Krasnoyarsk 22286,21600,25200,28800
 -1577513486b329962286c1602457200d15807600c15728400d15807600c15728400d15807600c15814800d
 15732000c15724800d15724800c15724800d15724800c15724800d15724800c15724800d15724800c15724800d
 15724800c15724800d16329600c31453200b9676800c6044400d15724800c15724800d15724800c15724800d
 15724800c15724800d15724800c16329600d18144000c13305600d18144000c13305600d18144000c13305600d
 18748800c12700800d18748800c12700800d18748800c13305600d18144000c13305600d18144000c13305600d
 18748800c12700800d18748800c12700800d18748800c12700800d18748800c13305600d18144000c13305600d
 18144000c13305600d18748800c12700800d113094000c
Asia/Kuala_Lumpur 24406,24925,25200,26400,27000,32400,28800
 -2177477206b139276281c870566125d273454800e14514600f112660200e1145667600g
Asia/Kuching 26480,27000,28800,30000,32400
 -1383463280b215826680c85188600d7861200c23761200d7861200c23674800d7861200c23674800d7861200c
 23674800d7861200c23761200d7861200c23674800d7861200c5530800e112662000c
Asia/Kuwait 11516,10800 -631163516b
Asia/Macao =Asia/Macau
Asia/Macau 27250,28800,32400,36000
 -2056692850b1172183650c11228400d17362800c14173200d13215600c63165600b18316800c13219200b
 17366400c19440000b13305600c15724800b13219200c18144000b13305600c18144000b13305600c18230400b
 13824000c18144000b13305600c18144000b12096000c19353600b12096000c19958400b11491200c19971000b
 12099600c19350000b12099600c19350000b12099600c19350000b12099600c19954800b11494800c19954800b
 11494800c19954800b12099600c19350000b12099600c19350000b14518800c15717600b15732000c15717600b
 15732000c16326000b15728400c15721200b15728400c15721200b15728400c15721200b15728400c15721200b
 15728400c16326000b15728400c15721200b6051600c25398000b15728400c15721200b15728400c15721200b
 81046800c13906800b
Asia/Magadan 36192,36000,39600,43200
 -1441188192b193622592c1602457200d15807600c15728400d15807600c15728400d15807600c15814800d
 15732000c15724800d15724800c15724800d15724800c15724800d15724800c15724800d15724800c15724800d
 15724800c15724800d16329600c31453200b9676800c6044400d15724800c15724800d15724800c15724800d
 15724800c15724800d15724800c16329600d18144000c13305600d18144000c13305600d18144000c13305600d
 18748800c12700800d18748800c12700800d18748800c13305600d18144000c13305600d18144000c13305600d
 18748800c12700800d18748800c12700800d18748800c12700800d18748800c13305600d18144000c13305600d
 18144000c13305600d18748800c12700800d113094000b47181600c
Asia/Makassar 28656,28800,32400 -1172908656b292636656c114217200b
Asia/Manila -57368,29032,28800,32400
 -3944621032b1725537832c1172404800d6562800c155091600d124930800c263869200d4662000c719888400d
 15375600c399517200d5958000c
Asia/Muscat 14064,14400 -1577937264b
Asia/Nicosia 8008,7200,10800
 -1518920008b1685492008c15721200b18666000c12870000b15037200c15116400b16333200c15807600b
 15642000c15721200b16333200c15116400b15728400c15721200b15728400c15721200b15728400c15721200b
 15728400c16326000b15728400c15721200b15728400c15721200b15728400c15721200b15728400c15721200b
 15728400c15721200b15728400c16326000b15728400c15721200b15728400c15721200b15728400c15721200b
 15728400c15721200b15728400c15721200b16333200c15721200b15728400c15721200b15728400c
 @7200,10800,3,5,0,10800,10,5,0,14400
Asia/Novokuznetsk 20928,21600,25200,28800
 -1441259328b193708128c1602457200d15807600c15728400d15807600c15728400d15807600c15814800d
 15732000c15724800d15724800c15724800d15724800c15724800d15724800c15724800d15724800c15724800d
 15724800c15724800d16329600c31453200b9676800c6044400d15724800c15724800d15724800c15724800d
 15724800c15724800d15724800c16329600d18144000c13305600d18144000c13305600d18144000c13305600d
 18748800c12700800d18748800c12700800d18748800c13305600d18144000c13305600d18144000c13305600d
 18748800c12700800d18748800c12700800d18748800c12700800d18748800c13305600d18144000c13305600d
 18144000c32058000b12700800c
Asia/Novosibirsk 19900,21600,25200,28800
 -1579476700b331925500c1602457200d15807600c15728400d15807600c15728400d15807600c15814800d
 15732000c15724800d15724800c15724800d15724800c15724800d15724800c15724800d15724800c15724800d
 15724800c15724800d16329600c31453200b9676800c6044400d15724800c15724800d4827600c10900800b
 15724800c15724800b15724800c15724800b16329600c18144000b13305600c18144000b13305600c18144000b
 13305600c18748800b12700800c18748800b12700800c18748800b13305600c18144000b13305600c18144000b
 13305600c18748800b12700800c18748800b12700800c18748800b12700800c18748800b13305600c18144000b
 13305600c18144000b13305600c18748800b12700800c113094000b55040400c
Asia/Omsk 17610,18000,21600,25200
 -1582088010b334540410c1602457200d15807600c15728400d15807600c15728400d15807600c15814800d
 15732000c15724800d15724800c15724800d15724800c15724800d15724800c15724800d15724800c15724800d
 15724800c15724800d16329600c31453200b9676800c6044400d15724800c15724800d15724800c15724800d
 15724800c15724800d15724800c16329600d18144000c13305600d18144000c13305600d18144000c13305600d
 18748800c12700800d18748800c12700800d18748800c13305600d18144000c13305600d18144000c13305600d
 18748800c12700800d18748800c12700800d18748800c12700800d18748800c13305600d18144000c13305600d
 18144000c13305600d18748800c12700800d113094000c
Asia/Oral 12324,10800,18000,21600,14400
 -1441164324b193623924c1602453600d47343600c15728400d15807600c15814800d15732000c15724800d
 15724800c15724800d15724800c15724800d15724800c15724800d15724800c31453200e15724800c16329600e
 15724800c15724800e9676800c21772800e15724800c15724800e15724800c15724800e15724800c15724800e
 16329600c18144000e13305600c18144000e13305600c18144000e13305600c18748800e12700800c18748800e
 12700800c18748800e13305600c18144000e13305600c18144000e13305600c
Asia/Phnom_Penh 25180,25590,25200,28800,32400 -2004073180b152495590c999471990d69462000e14774400c
Asia/Pontianak 26240,27000,32400,28800,25200
 -1172906240b291685640c115165800b82171800d63070200b431397000d757380600e
Asia/Pyongyang 30180,30600,32400 -1948782180b118367580c3269979000b85881600c
Asia/Qatar 12368,14400,10800 -1577935568b1654125968c
Asia/Qostanay 15268,14400,18000,21600
 -1441167268b193623268c1602457200d47343600c15728400d15807600c15814800d15732000c15724800d
 15724800c15724800d15724800c15724800d15724800c15724800d15724800c15724800d15724800c15724800d
 16329600c31453200b9676800c6044400d15724800c15724800d15724800c15724800d15724800c15724800d
 15724800c16329600d18144000c13305600d18144000c13305600d18144000c13305600d18748800c12700800d
 18748800c12700800d18748800c13305600d18144000c13305600d18144000c13305600d628808400c
Asia/Qyzylorda 15712,14400,18000,21600
 -1441167712b193623712c1602457200d47343600c15728400d15807600c15814800d15732000c15724800d
 15724800c15724800d15724800c15724800d15724800c15724800d15724800c15724800d15724800c15724800d
 16329600c41126400d21772800c15724800d15724800c15724800d15724800c15724800d15724800c16329600d
 18144000c13305600d18144000c13305600d18144000c13305600d18748800c12700800d18748800c12700800d
 18748800c13305600d18144000c13305600d18144000c13305600d464907600c
Asia/Rangoon =Asia/Yangon
Asia/Riyadh 11212,10800 -719636812b
Asia/Saigon =Asia/Ho_Chi_Minh
Asia/Sakhalin 34248,32400,39600,43200,36000
 -2031039048b1262478648c1123452000d15807600c15728400d15807600c15728400d15807600c15814800d
 15732000c15724800d15724800c15724800d15724800c15724800d15724800c15724800d15724800c15724800d
 15724800c15724800d16329600c31453200e9676800c6044400d15724800c15724800d15724800c15724800d
 15724800c15724800d15724800c16329600d18144000c31453200e13305600c18144000e13305600c18748800e
 12700800c18748800e12700800c18748800e13305600c18144000e13305600c18144000e13305600c18748800e
 12700800c18748800e12700800c18748800e12700800c18748800e13305600c18144000e13305600c18144000e
 13305600c18748800e12700800c113094000e44758800c
Asia/Samarkand 16073,14400,18000,21600
 -1441168073b193624073c1602457200d47343600c15728400d15807600c15814800d15732000c15724800d
 15724800c15724800d15724800c15724800d15724800c15724800d15724800c15724800d15724800c15724800d
 16329600c15724800d15724800c
Asia/Seoul 30472,30600,32400,36000,34200
 -1948782472b118367872c1149204600d8982000c17456400d13906800c17456400d13993200c20566800d
 10882800c79837200b35425800e10969200b21949200e11487600b18752400e12092400b19357200e12092400b
 19357200e12092400b19357200e12092400b28170000c812511000d13305600c18144000d13305600c
Asia/Shanghai 29143,28800,32400
 -2177481943b576806743c14770800b652237200c11574000b13222800c20041200b7779600c113180400b
 22035600c12006000b16938000c17276400b15728400c13215600b18320400c2329200b1165546800c
 11487600b18147600c13302000b18752400c12697200b18752400c13302000b18147600c13302000b18147600c
 13302000b
Asia/Singapore 24925,25200,26400,27000,32400,28800
 -2038200925b870566125c273454800d14514600e112660200d1145667600f
Asia/Srednekolymsk 36892,36000,39600,43200
 -1441188892b193623292c1602457200d15807600c15728400d15807600c15728400d15807600c15814800d
 15732000c15724800d15724800c15724800d15724800c15724800d15724800c15724800d15724800c15724800d
 15724800c15724800d16329600c31453200b9676800c6044400d15724800c15724800d15724800c15724800d
 15724800c15724800d15724800c16329600d18144000c13305600d18144000c13305600d18144000c13305600d
 18748800c12700800d18748800c12700800d18748800c13305600d18144000c13305600d18144000c13305600d
 18748800c12700800d18748800c12700800d18748800c12700800d18748800c13305600d18144000c13305600d
 18144000c13305600d18748800c12700800d113094000c
Asia/Taipei 29160,28800,32400
 -2335248360b1317427560c251596800b20390400c12006000b16938000c17276400b15728400c13215600b
 18320400c13215600b18320400c13215600b18320400c13215600b13136400c21164400b13050000c18486000b
 13050000c18486000b13050000c15807600b15814800c15807600b15728400c15807600b15728400c15807600b
 15728400c15807600b21085200c10537200b20998800c10537200b394419600c15807600b15728400c
 15807600b118285200c7945200b
Asia/Tashkent 16631,18000,21600,25200
 -1441168631b193621031c1602457200d15807600c15728400d15807600c15728400d15807600c15814800d
 15732000c15724800d15724800c15724800d15724800c15724800d15724800c15724800d15724800c15724800d
 15724800c15724800d16329600c31453200b
Asia/Tbilisi 10751,10800,14400,18000
 -1441162751b1036022351c760057200d15807600c15728400d15807600c15728400d15807600c15814800d
 15732000c15724800d15724800c15724800d15724800c15724800d15724800c15724800d15724800c15724800d
 15724800c15724800d16329600c31453200b15717600c15721200b15728400c15721200b15728400c31446000d
 15721200c16333200d49590000c13309200d18140400c13309200d18745200c12704400d18745200c12704400d
 18745200c13309200d18140400c13309200d18140400c13309200d7858800c10900800b12700800c
Asia/Tehran 12344,12600,16200,14400,18000
 -1090466744b1318287344c18403200d13393800e11491200d8467200b17022600c9932400b15901200c
 16066800b334717200c12265200b15728400c15894000b15642000c15894000b15642000c15894000b
 15642000c15894000b15642000c15894000b15728400c15894000b15642000c15894000b15642000c15894000b
 15642000c15894000b15728400c15894000b15642000c15894000b15642000c15894000b15642000c15894000b
 15728400c15894000b78714000c15894000b15728400c15894000b15642000c15894000b15642000c15894000b
 15642000c15894000b15728400c15894000b15642000c15894000b15642000c15894000b15642000c15894000b
 15728400c15894000b15642000c15894000b15642000c15894000b15642000c15894000b15728400c15894000b
 15642000c15894000b
Asia/Tel_Aviv =Asia/Jerusalem
Asia/Thimbu =Asia/Thimphu
Asia/Thimphu 21516,19800,21600 -706341516b1266366516c
Asia/Tokyo 33539,32400,36000
 -2587712400b1903910400c11491200b17539200c13910400b20563200c10886400b20563200c10886400b
Asia/Tomsk 20391,21600,25200,28800
 -1578807591b331256391c1602457200d15807600c15728400d15807600c15728400d15807600c15814800d
 15732000c15724800d15724800c15724800d15724800c15724800d15724800c15724800d15724800c15724800d
 15724800c15724800d16329600c31453200b9676800c6044400d15724800c15724800d15724800c15724800d
 15724800c15724800d15724800c16329600d18144000c13305600d18144000c13305600d18144000c13305600d
 18748800c12700800d18748800c12700800d18748800c13305600d2678400c15469200b13305600c18144000b
 13305600c18748800b12700800c18748800b12700800c18748800b12700800c18748800b13305600c18144000b
 13305600c18144000b13305600c18748800b12700800c113094000b50202000c
Asia/Ujung_Pandang =Asia/Makassar
Asia/Ulaanbaatar 25652,25200,28800,32400
 -2032931252b2285366852c165538800d15807600c15814800d15721200c15728400d15721200c15728400d
 15721200c15728400d15721200c15728400d15721200c15728400d15721200c15728400d16326000c15728400d
 15721200c15728400d15721200c15728400d15721200c15728400d15721200c15728400d15721200c16333200d
 15721200c15728400d15721200c15728400d15721200c81572400d13302000c15728400d15721200c15728400d
 15721200c15728400d15721200c15728400d15721200c15728400d16326000c267930000d15714000c
 15735600d15714000c
Asia/Ulan_Bator =Asia/Ulaanbaatar
Asia/Urumqi 21020,21600 -1325483420b
Asia/Ust-Nera 34374,28800,32400,43200,39600,36000
 -1579426374b331867974c1602457200d15800400e15728400d15807600e15728400d15807600e15814800d
 15732000e15724800d15724800e15724800d15724800e15724800d15724800e15724800d15724800e15724800d
 15724800e15724800d16329600e31453200f9676800e6044400d15724800e15724800d15724800e15724800d
 15724800e15724800d15724800e16329600d18144000e13305600d18144000e13305600d18144000e13305600d
 18748800e12700800d18748800e12700800d18748800e13305600d18144000e13305600d18144000e13305600d
 18748800e12700800d18748800e12700800d18748800e12700800d18748800e13305600d18144000e13305600d
 18144000e13305600d18748800e12700800d14677200e98420400f
Asia/Vientiane 24624,25590,25200,28800,32400
 -2004072624b152495034c999471990d69462000e14774400c49773600d253666800c
Asia/Vladivostok 31651,32400,36000,39600
 -1487321251b239759251c1602457200d15807600c15728400d15807600c15728400d15807600c15814800d
 15732000c15724800d15724800c15724800d15724800c15724800d15724800c15724800d15724800c15724800d
 15724800c15724800d16329600c31453200b9676800c6044400d15724800c15724800d15724800c15724800d
 15724800c15724800d15724800c16329600d18144000c13305600d18144000c13305600d18144000c13305600d
 18748800c12700800d18748800c12700800d18748800c13305600d18144000c13305600d18144000c13305600d
 18748800c12700800d18748800c12700800d18748800c12700800d18748800c13305600d18144000c13305600d
 18144000c13305600d18748800c12700800d113094000c
Asia/Yakutsk 31138,28800,32400,36000
 -1579423138b331864738c1602457200d15807600c15728400d15807600c15728400d15807600c15814800d
 15732000c15724800d15724800c15724800d15724800c15724800d15724800c15724800d15724800c15724800d
 15724800c15724800d16329600c31453200b9676800c6044400d15724800c15724800d15724800c15724800d
 15724800c15724800d15724800c16329600d18144000c13305600d18144000c13305600d18144000c13305600d
 18748800c12700800d18748800c12700800d18748800c13305600d18144000c13305600d18144000c13305600d
 18748800c12700800d18748800c12700800d18748800c12700800d18748800c13305600d18144000c13305600d
 18144000c13305600d18748800c12700800d113094000c
Asia/Yangon 23087,23400,32400 -1577946287b704678087c94858200b
Asia/Yekaterinburg 14553,13505,14400,18000,21600
 -1688270553b95660248c345066305d1602457200e15807600d15728400e15807600d15728400e15807600d
 15814800e15732000d15724800e15724800d15724800e15724800d15724800e15724800d15724800e15724800d
 15724800e15724800d15724800e16329600d31453200c9676800d6044400e15724800d15724800e15724800d
 15724800e15724800d15724800e15724800d16329600e18144000d13305600e18144000d13305600e18144000d
 13305600e18748800d12700800e18748800d12700800e18748800d13305600e18144000d13305600e18144000d
 13305600e18748800d12700800e18748800d12700800e18748800d12700800e18748800d13305600e18144000d
 13305600e18144000d13305600e18748800d12700800e113094000d
Asia/Yerevan 10680,10800,14400,18000
 -1441162680b1036022280c760057200d15807600c15728400d15807600c15728400d15807600c15814800d
 15732000c15724800d15724800c15724800d15724800c15724800d15724800c15724800d15724800c15724800d
 15724800c15724800d16329600c31453200b15724800c15724800b15724800c15724800b15724800c15724800b
 15724800c63500400d18144000c13305600d18144000c13305600d18748800c12700800d18748800c12700800d
 18748800c13305600d18144000c13305600d18144000c13305600d18748800c12700800d18748800c12700800d
 18748800c12700800d18748800c13305600d18144000c13305600d18144000c13305600d18748800c12700800d
 18748800c
Indian/Antananarivo 11404,10800,14400 -1846293004b1346368204c7862400b
Indian/Chagos 17380,18000,21600 -1988167780b2808604180c
Indian/Christmas 25372,25200 -2364102172b
Indian/Cocos 23260,23400 -2209012060b
Indian/Comoro 10384,10800 -1846291984b
Indian/Kerguelen 0,18000 -631152000b
Indian/Mahe 13308,14400 -1988163708b
Indian/Maldives 17640,18000 -315636840b
Indian/Mauritius 13800,14400,18000 -1988164200b2391205800c13993200b807937200c13302000b
Indian/Mayotte 10856,10800 -1846292456b
Indian/Reunion 13312,14400 -1848886912b"

end NodeSidecar.Zone.Table
